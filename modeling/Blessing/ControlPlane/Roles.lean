import Blessing.Lib.JavaScript
import Mathlib

/-! # The role a route demands

`requiredControlPlaneRole` recognises a route by the end of its path, Express by its own matcher:
without regard to case, and with or without a slash at the end. A request that arrives at a handler
with such a slash is judged as an ordinary mutation (`authorization_iff`). -/

namespace Blessing.ControlPlane.Roles

open Blessing.Lib Blessing.Lib.Values Blessing.Lib.JavaScript Blessing.Lib.Unicode

/-! ### The authorization policy -/

/-- `ControlPlaneRole`. -/
inductive ControlPlaneRole where
  | viewer
  | operator
  | tradingAdmin
  deriving DecidableEq

/-- `ControlPlaneRequestLike`, with an absent body for a request that carries no JSON. -/
structure ControlPlaneRequestLike where
  method : String
  originalUrl : Option String
  path : Option String
  body : Option Json

/-- A property of the body: `req.body?.k`. -/
def property (body : Option Json) (k : String) : Option Json := body.bind (·.get? k)

/-- `a || b` of two texts that may be undefined. -/
def firstText (a b : Option String) : Option String :=
  if a.getD "" = "" then b else a

/-- `(req.originalUrl || req.path || '').split('?')[0].toLowerCase()`. -/
def routeOf (req : ControlPlaneRequestLike) : String :=
  Text.lower
    (String.ofList (Text.beforeFirst ['?'] ((firstText req.originalUrl req.path).getD "").toList))

/-- `String(req.method || 'GET').toUpperCase()`. -/
def methodOf (req : ControlPlaneRequestLike) : String :=
  Text.upper (if req.method = "" then "GET" else req.method)

section

variable (numberText : Json → String)

/-- `String(req.body?.executionMode || '').trim().toUpperCase()`. -/
def modeOf (body : Option Json) : Option String :=
  (textOrEmpty numberText (property body "executionMode")).map fun s => Text.upper (trim s)

/-- `requiredControlPlaneRole`, nothing where it throws. -/
def requiredControlPlaneRole (req : ControlPlaneRequestLike) : Option ControlPlaneRole :=
  let route := routeOf req
  let method := methodOf req
  if method = "GET" ∨ method = "HEAD" then some .viewer
  else if endsWith route "/release/mainnet/approve" then some .tradingAdmin
  else if endsWith route "/release/mainnet/continuation/approve" then some .tradingAdmin
  else if endsWith route "/system/continue" then some .tradingAdmin
  else if endsWith route "/preflight/read-only" then some .tradingAdmin
  else if endsWith route "/arm" then
    (modeOf numberText req.body).map fun mode => if mode = "LIVE" then .tradingAdmin else .operator
  else if endsWith route "/kill-switch" || endsWith route "/killswitch" then
    some (if property req.body "active" = some (.bool false) then .tradingAdmin else .operator)
  else some .operator

end

/-! ### The dispatch of Express -/

/-- A request as it reaches the middleware mounted at `baseUrl`. -/
structure Request where
  method : String
  baseUrl : String
  path : String
  body : Option Json

/-- The path of the request. -/
def Request.fullPath (req : Request) : String := req.baseUrl ++ req.path

/-- The method a handler is registered for. -/
inductive Method where
  | get
  | post
  deriving DecidableEq

/-- The methods Express hands to such a handler. -/
def Method.accepts : Method → String → Bool
  | .get, m => Text.lower m == "get" || Text.lower m == "head"
  | .post, m => Text.lower m == "post"

/-- The path a handler is registered under, with at most one parameter in it. -/
inductive Pattern where
  | literal (text : String)
  | withParameter (front back : String)
  deriving DecidableEq

/-- A text as the flag `i` of an expression compares it with letters of ASCII. -/
def folded (text : String) : List Char := text.toList.map Char.toLower

/-- The matcher of Express on a path without its case. -/
def Pattern.accepts : Pattern → List Char → Bool
  | .literal text, cs => cs == text.toList || cs == text.toList ++ ['/']
  | .withParameter front back, cs =>
    let rest := cs.drop front.toList.length
    let value := rest.takeWhile fun c => c != '/' && c != '?'
    let tail := rest.dropWhile fun c => c != '/' && c != '?'
    front.toList.isPrefixOf cs && !value.isEmpty &&
      (tail == back.toList || tail == back.toList ++ ['/'])

/-- The handlers whose effect the policy reserves. -/
inductive Effect where
  | approveRelease
  | approveContinuation
  | continueSession
  | readOnlyPreflight
  | arm
  | killSwitch
  | ordinary
  deriving DecidableEq

/-- A registered handler. -/
structure Route where
  method : Method
  pattern : Pattern
  effect : Effect
  deriving DecidableEq

/-- A read. -/
def get (text : String) : Route := ⟨.get, .literal text, .ordinary⟩

/-- A mutation. -/
def post (text : String) (effect : Effect) : Route := ⟨.post, .literal text, effect⟩

/-- The handlers behind `enforceOperatorAccess`, in the order of their registration. -/
def routes : List Route :=
  [get "/api/binance/verify-key",
   get "/api/binance/profiles",
   post "/api/binance/profiles/switch" .ordinary,
   post "/api/binance/profiles/save" .ordinary,
   post "/api/binance/profiles/delete" .ordinary,
   post "/api/binance/sync-account" .ordinary,
   get "/api/binance/balance",
   get "/api/system/state",
   get "/api/system/preflight",
   post "/api/system/preflight/read-only" .readOnlyPreflight,
   post "/api/release/mainnet/approve" .approveRelease,
   post "/api/release/mainnet/continuation/approve" .approveContinuation,
   ⟨.get, .withParameter "/api/release/mainnet/continuation/" "", .ordinary⟩,
   ⟨.get, .withParameter "/api/release/mainnet/" "", .ordinary⟩,
   get "/api/system/readiness",
   post "/api/system/arm" .arm,
   post "/api/system/continue" .continueSession,
   post "/api/system/disarm" .ordinary,
   post "/api/system/pause-new-risk" .ordinary,
   post "/api/system/recovery-only" .ordinary,
   post "/api/system/kill-switch" .killSwitch,
   post "/api/system/reconcile" .ordinary,
   get "/api/wealth/metrics",
   get "/api/incidents/8d",
   ⟨.post, .withParameter "/api/incidents/8d/" "/close", .ordinary⟩,
   get "/api/learning/lineages",
   get "/api/learning/pdca",
   get "/api/quant/state",
   post "/api/quant/risk/kill-switch" .killSwitch,
   post "/api/quant/basket/expand" .ordinary,
   post "/api/quant/basket/recovery" .ordinary,
   post "/api/quant/basket/close" .ordinary,
   post "/api/quant/basket/action" .ordinary,
   post "/api/quant/killswitch" .killSwitch,
   post "/api/quant/backtest/run" .ordinary,
   post "/api/quant/ai/research" .ordinary,
   get "/api/google/products",
   post "/api/google/test-connection" .ordinary,
   post "/api/google/sync-all" .ordinary]

/-- The handler Express calls: the first one that accepts the request. -/
def dispatch (req : Request) : Option Route :=
  routes.find? fun r =>
    r.method.accepts req.method && r.pattern.accepts (folded req.fullPath)

/-- The role `enforceOperatorAccess` demands before it calls the handler. -/
def enforceOperatorAccess (numberText : Json → String) (req : Request) : Option ControlPlaneRole :=
  requiredControlPlaneRole numberText ⟨req.method, none, some (req.baseUrl ++ req.path), req.body⟩

/-! ### What the handlers do -/

/-- The handler would release a kill switch, arm in `LIVE`, continue, approve or run the read-only
preflight with this body. -/
def HighImpact : Effect → Option Json → Prop
  | .approveRelease, _ | .approveContinuation, _ | .continueSession, _ | .readOnlyPreflight, _ =>
    True
  | .arm, body => property body "executionMode" = some (.str "LIVE")
  | .killSwitch, body => property body "active" = some (.bool false)
  | .ordinary, _ => False

instance (e : Effect) (body : Option Json) : Decidable (HighImpact e body) := by
  cases e <;> simp only [HighImpact] <;> infer_instance

/-- The path ends with a slash. -/
def TrailingSlash (path : String) : Prop := path.toList.getLast? = some '/'

instance (path : String) : Decidable (TrailingSlash path) := inferInstanceAs (Decidable (_ = _))

/-- The policy treats the handler differently from an ordinary mutation: it demands an
administrator, or fails on an execution mode that has no text. -/
def Reserved (numberText : Json → String) : Effect → Option Json → Prop
  | .arm, body => modeOf numberText body = none ∨ modeOf numberText body = some "LIVE"
  | e, body => HighImpact e body

instance (numberText : Json → String) (e : Effect) (body : Option Json) :
    Decidable (Reserved numberText e body) := by
  cases e <;> simp only [Reserved] <;> infer_instance

/-! ### The policy by kind of path -/

/-- The effect the policy reads off a path. -/
def suffixEffect (route : String) : Effect :=
  if endsWith route "/release/mainnet/approve" then .approveRelease
  else if endsWith route "/release/mainnet/continuation/approve" then .approveContinuation
  else if endsWith route "/system/continue" then .continueSession
  else if endsWith route "/preflight/read-only" then .readOnlyPreflight
  else if endsWith route "/arm" then .arm
  else if endsWith route "/kill-switch" || endsWith route "/killswitch" then .killSwitch
  else .ordinary

section

variable (numberText : Json → String)

/-- The role demanded for a mutation with an effect. -/
def mutationRole (body : Option Json) : Effect → Option ControlPlaneRole
  | .approveRelease | .approveContinuation | .continueSession | .readOnlyPreflight =>
    some .tradingAdmin
  | .arm =>
    (modeOf numberText body).map fun mode => if mode = "LIVE" then .tradingAdmin else .operator
  | .killSwitch =>
    some (if property body "active" = some (.bool false) then .tradingAdmin else .operator)
  | .ordinary => some .operator

/-- Reads ask for a viewer, a mutation for what the end of its path says. -/
theorem requiredControlPlaneRole_eq (req : ControlPlaneRequestLike) :
    requiredControlPlaneRole numberText req =
      if methodOf req = "GET" ∨ methodOf req = "HEAD" then some .viewer
      else mutationRole numberText req.body (suffixEffect (routeOf req)) := by
  unfold requiredControlPlaneRole suffixEffect
  simp only
  split_ifs <;> simp [mutationRole, *]

theorem mutationRole_of_not_reserved {body : Option Json} {e : Effect}
    (h : ¬ Reserved numberText e body) : mutationRole numberText body e = some .operator := by
  cases e with
  | approveRelease | approveContinuation | continueSession | readOnlyPreflight =>
    exact absurd trivial h
  | ordinary => rfl
  | killSwitch => rw [mutationRole, if_neg (show ¬ property body "active" = _ from h)]
  | arm =>
    rw [Reserved, not_or] at h
    obtain ⟨mode, hmode⟩ := Option.ne_none_iff_exists'.mp h.1
    have hlive : mode ≠ "LIVE" := by
      rintro rfl
      exact h.2 hmode
    rw [mutationRole, hmode, Option.map_some, if_neg hlive]

theorem mutationRole_of_reserved {body : Option Json} {e : Effect}
    (h : Reserved numberText e body) : mutationRole numberText body e ≠ some .operator := by
  cases e with
  | approveRelease | approveContinuation | continueSession | readOnlyPreflight =>
    simp [mutationRole]
  | ordinary => exact h.elim
  | killSwitch => simp [mutationRole, if_pos (show property body "active" = _ from h)]
  | arm =>
    rcases h with h | h
    · simp [mutationRole, h]
    · simp [mutationRole, h]

theorem modeOf_live {body : Option Json} (h : property body "executionMode" = some (.str "LIVE")) :
    modeOf numberText body = some "LIVE" := by
  rw [modeOf, h, textOrEmpty_str]
  decide +kernel

theorem mutationRole_of_highImpact {body : Option Json} {e : Effect} (h : HighImpact e body) :
    mutationRole numberText body e = some .tradingAdmin := by
  cases e with
  | approveRelease | approveContinuation | continueSession | readOnlyPreflight => rfl
  | ordinary => exact h.elim
  | killSwitch => rw [mutationRole, if_pos (show property body "active" = _ from h)]
  | arm => rw [mutationRole, modeOf_live numberText h, Option.map_some, if_pos rfl]

end

/-! ### Paths that arrive at a handler -/

theorem toLower_eq_iff {c d : Char} (hd : d.isAlpha = false) : c.toLower = d ↔ c = d := by
  have hself {c : Char} (hc : c.isAlpha = false) : c.toLower = c := by
    refine Char.toLower_eq_of_not_isUpper fun hup => ?_
    rw [Char.isAlpha, hup, Bool.true_or] at hc
    cases hc
  constructor
  · rintro rfl
    rw [Char.isAlpha_toLower_eq_isAlpha] at hd
    exact (hself hd).symm
  · rintro rfl
    exact hself hd

/-- The query is cut off at the first question mark; a path has none. -/
theorem beforeFirst_eq_self : ∀ {cs : List Char}, '?' ∉ cs → Text.beforeFirst ['?'] cs = cs
  | [], _ => rfl
  | c :: cs, h => by
    rw [List.mem_cons, not_or] at h
    rw [Text.beforeFirst, if_neg (by simpa [List.isPrefixOf] using h.1), beforeFirst_eq_self h.2]

theorem routeOf_eq {method path : String} {body : Option Json} (h : '?' ∉ path.toList) :
    routeOf ⟨method, none, some path, body⟩ = Text.lower path := by
  have hfirst : firstText none (some path) = some path := rfl
  rw [routeOf, hfirst, Option.getD_some, beforeFirst_eq_self h, String.ofList_toList]

theorem trailingSlash_folded (path : String) :
    (folded path).getLast? = some '/' ↔ TrailingSlash path := by
  rw [folded, List.getLast?_map, TrailingSlash, Option.map_eq_some_iff]
  constructor
  · rintro ⟨c, hc, hslash⟩
    rwa [(toLower_eq_iff (by decide)).mp hslash] at hc
  · intro h
    exact ⟨'/', h, rfl⟩

theorem ascii_of_toLower {c : Char} (h : c.toLower.toNat < 128) : c.toNat < 128 := by
  by_cases hup : c.isUpper = true
  · rw [Char.isUpper, decide_eq_true_eq] at hup
    have hle : c.toNat ≤ 90 := hup.2
    omega
  · rwa [Char.toLower_eq_of_not_isUpper hup] at h

/-- Where a path folds to letters of ASCII, its lower case is what it folds to. -/
theorem lower_of_folded {s t : String} (ht : Text.isAscii t = true)
    (h : folded s = t.toList) : Text.lower s = t := by
  have hs : Text.isAscii s = true := by
    refine List.all_eq_true.mpr fun c hc => decide_eq_true ?_
    exact ascii_of_toLower (Text.mem_ascii ht _ (h ▸ List.mem_map_of_mem hc))
  rw [Text.lower_of_ascii hs, show s.toList.map Char.toLower = t.toList from h,
    String.ofList_toList]

theorem lower_append_folded {path back : String} {front : List Char}
    (hascii : Text.isAscii back = true) (h : folded path = front ++ back.toList) :
    ∃ front', Text.lower path = front' ++ back := by
  obtain ⟨front', back', hpath, -, hback⟩ := List.map_eq_append_iff.mp h
  have hsplit : path = String.ofList front' ++ String.ofList back' :=
    String.toList_injective (by simpa using hpath)
  have hlower : Text.lower (String.ofList back') = back :=
    lower_of_folded hascii (by rw [folded, String.toList_ofList, hback])
  exact ⟨Text.lower (String.ofList front'), by rw [hsplit, Text.lower_append, hlower]⟩

theorem question_mem_folded (s : String) : '?' ∈ folded s ↔ '?' ∈ s.toList := by
  simp [folded, toLower_eq_iff (show ('?' : Char).isAlpha = false by decide)]

/-! ### What the policy reads off a dispatched path -/

/-- The endings the policy looks for. -/
def endings : List String :=
  ["/release/mainnet/approve", "/release/mainnet/continuation/approve", "/system/continue",
   "/preflight/read-only", "/arm", "/kill-switch", "/killswitch"]

/-- No ending the policy looks for is an ending of `back`, nor `back` of it. -/
def Unrelated (back : String) : Prop :=
  ∀ w ∈ endings, back.toList.isSuffixOf w.toList = false ∧ w.toList.isSuffixOf back.toList = false

instance (back : String) : Decidable (Unrelated back) := inferInstanceAs (Decidable (∀ _ ∈ _, _))

theorem suffixEffect_append {front back : String} (h : Unrelated back) :
    suffixEffect (front ++ back) = .ordinary := by
  have hno : ∀ w ∈ endings, endsWith (front ++ back) w = false := by
    intro w hw
    refine Bool.eq_false_iff.mpr fun hend => ?_
    rcases endsWith_append hend with hsuf | hsuf
    · rw [(h w hw).1] at hsuf
      cases hsuf
    · rw [(h w hw).2] at hsuf
      cases hsuf
  simp only [endings, List.forall_mem_cons] at hno
  obtain ⟨h1, h2, h3, h4, h5, h6, h7, -⟩ := hno
  simp [suffixEffect, h1, h2, h3, h4, h5, h6, h7]

/-- The policy agrees with the handler on the registered path, and takes every other accepted path
for one without a reserved effect. -/
def Route.Recognised (r : Route) : Prop :=
  match r.pattern with
  | .literal text =>
    suffixEffect text = r.effect ∧ suffixEffect (text ++ "/") = .ordinary ∧
      '?' ∉ text.toList ∧ text.toList.getLast? ≠ some '/' ∧ Text.isAscii text
  | .withParameter front back =>
    r.effect = .ordinary ∧ Unrelated back ∧ Unrelated (back ++ "/") ∧
      '?' ∉ front.toList ∧ '?' ∉ back.toList ∧ Text.isAscii back

instance (r : Route) : Decidable r.Recognised := by
  unfold Route.Recognised
  split <;> infer_instance

theorem routes_recognised : ∀ r ∈ routes, r.method = .post → r.Recognised := by decide +kernel

theorem routes_get : ∀ r ∈ routes, r.method = .get → r.effect = .ordinary := by decide +kernel

/-- A literal route is reached by its own text, with or without a slash after it. -/
theorem literal_accepts {text path : String} (h : (Pattern.literal text).accepts (folded path)) :
    folded path = text.toList ∨ folded path = (text ++ "/").toList := by
  simp only [Pattern.accepts, Bool.or_eq_true, beq_iff_eq] at h
  exact h.imp_right fun h => by rw [h, String.toList_append]; rfl

/-- A route with a parameter is reached by its two parts around a value. -/
theorem withParameter_accepts {front back path : String}
    (h : (Pattern.withParameter front back).accepts (folded path)) :
    ∃ value : List Char, '?' ∉ value ∧
      (folded path = front.toList ++ value ++ back.toList ∨
        folded path = front.toList ++ value ++ (back ++ "/").toList) := by
  simp only [Pattern.accepts, Bool.and_eq_true, Bool.or_eq_true, beq_iff_eq,
    List.isPrefixOf_iff_prefix] at h
  obtain ⟨⟨⟨rest, hrest⟩, -⟩, htail⟩ := h
  rw [← hrest, List.drop_left] at htail
  refine ⟨rest.takeWhile fun c => c != '/' && c != '?', ?_, ?_⟩
  · intro hmem
    simpa using List.mem_takeWhile_imp hmem
  · have hsplit := List.takeWhile_append_dropWhile (p := fun c => c != '/' && c != '?') (l := rest)
    rcases htail with htail | htail
    · left
      rw [← hrest, ← htail, List.append_assoc, hsplit]
    · right
      rw [← hrest, String.toList_append, show "/".toList = ['/'] from rfl, ← htail,
        List.append_assoc, hsplit]

example : (Pattern.withParameter "/api/datasets/" "/sync").accepts
    (folded "/api/Datasets/prices/SYNC/") = true := by
  decide +kernel

/-- On an accepted path the policy sees the effect of the handler, unless a slash ends the path. -/
theorem suffixEffect_of_accepts {r : Route} {path : String} (hrec : r.Recognised)
    (h : r.pattern.accepts (folded path)) :
    '?' ∉ path.toList ∧
      suffixEffect (Text.lower path) = if TrailingSlash path then .ordinary else r.effect := by
  unfold Route.Recognised at hrec
  rw [← question_mem_folded]
  cases hp : r.pattern with
  | literal text =>
    rw [hp] at h hrec
    obtain ⟨hplain, hslash, hq, hlast, hascii⟩ := hrec
    rcases literal_accepts h with heq | heq
    · rw [heq, lower_of_folded hascii heq,
        if_neg (by rw [← trailingSlash_folded, heq]; exact hlast)]
      exact ⟨hq, hplain⟩
    · have hends : TrailingSlash path := by
        rw [← trailingSlash_folded, heq, String.toList_append]
        exact List.getLast?_concat
      have hascii' : Text.isAscii (text ++ "/") = true := by
        rw [Text.isAscii_append, hascii, Bool.true_and]
        rfl
      rw [heq, lower_of_folded hascii' heq, if_pos hends]
      refine ⟨?_, hslash⟩
      rw [String.toList_append, List.mem_append, not_or]
      exact ⟨hq, by decide⟩
  | withParameter front back =>
    rw [hp] at h hrec
    obtain ⟨heff, hback, hback', hfront, hq, hascii⟩ := hrec
    rw [heff, ite_self]
    obtain ⟨value, hvalue, heq | heq⟩ := withParameter_accepts h
    · obtain ⟨front', hlower⟩ := lower_append_folded hascii heq
      rw [heq, hlower]
      refine ⟨?_, suffixEffect_append hback⟩
      simp [hfront, hvalue, hq]
    · have hascii' : Text.isAscii (back ++ "/") = true := by
        rw [Text.isAscii_append, hascii, Bool.true_and]
        rfl
      obtain ⟨front', hlower⟩ := lower_append_folded hascii' heq
      rw [heq, hlower]
      refine ⟨?_, suffixEffect_append hback'⟩
      simp [String.toList_append, hfront, hvalue, hq]

/-! ### Authorization and dispatch -/

/-- Only the dotted capital I and the sign of Kelvin have a small letter in ASCII. -/
theorem ascii_of_mem_lower {c d : Char} (h : d ∈ lowerTable.char c) (hd : d.toNat < 128)
    (hi : d ≠ 'i') (hk : d ≠ 'k') : c.toNat < 128 := by
  have himages : lowerTable.allImages (fun _ m =>
      let d := Char.ofNat m
      Nat.ble 128 d.toNat || d == 'i' || d == 'k') = true := by
    decide +kernel
  by_contra hc
  rcases CaseTable.image_spec himages hc with hself | himage
  · rw [hself, List.mem_singleton] at h
    exact hc (h ▸ hd)
  · obtain ⟨m, rfl, hm⟩ := himage d h
    simp only [Bool.or_eq_true, Nat.ble_eq, beq_iff_eq] at hm
    rcases hm with (hm | hm) | hm
    · exact absurd hd (Nat.not_lt.mpr hm)
    · exact hi hm
    · exact hk hm

theorem upper_lower {s : String} (hascii : Text.isAscii (Text.lower s) = true)
    (hletters : (Text.lower s).toList.all fun c => c != 'i' && c != 'k') :
    Text.upper (Text.lower s) = Text.upper s := by
  have hs : Text.isAscii s = true := by
    refine List.all_eq_true.mpr fun c hc => decide_eq_true ?_
    obtain ⟨d, hd⟩ := List.exists_mem_of_ne_nil _ (CaseTable.char_ne_nil Text.good_lowerTable c)
    have hmem : d ∈ (Text.lower s).toList := by
      rw [Text.lower, String.toList_ofList]
      exact List.mem_flatMap.mpr ⟨c, hc, hd⟩
    have hne := List.all_eq_true.mp hletters d hmem
    rw [Bool.and_eq_true, bne_iff_ne, bne_iff_ne] at hne
    exact ascii_of_mem_lower hd (Text.mem_ascii hascii d hmem) hne.1 hne.2
  rw [Text.upper_of_ascii hs, Text.upper_of_ascii hascii, Text.lower_of_ascii hs,
    String.toList_ofList, List.map_map]
  simp [Function.comp_def]

/-- A method Express knows by its lower case is the one the policy knows by its upper case. -/
theorem methodOf_eq {method m : String} {url path : Option String} {body : Option Json}
    (h : Text.lower method = m) (hm : m ≠ "")
    (hascii : Text.isAscii m = true) (hletters : m.toList.all fun c => c != 'i' && c != 'k') :
    methodOf ⟨method, url, path, body⟩ = Text.upper m := by
  have hne : method ≠ "" := by
    rintro rfl
    exact hm h.symm
  rw [methodOf, if_neg hne, ← h, upper_lower (h ▸ hascii) (h ▸ hletters)]

/-- The role demanded of a dispatched request, by the effect of its handler. -/
theorem enforceOperatorAccess_eq (numberText : Json → String) {req : Request} {r : Route}
    (h : dispatch req = some r) :
    enforceOperatorAccess numberText req =
      if r.method = .get then some .viewer
      else mutationRole numberText req.body
        (if TrailingSlash req.fullPath then .ordinary else r.effect) := by
  obtain ⟨hmethod, hpath⟩ : r.method.accepts req.method ∧
      r.pattern.accepts (folded req.fullPath) := by
    simpa using List.find?_some h
  have hmem : r ∈ routes := List.mem_of_find?_eq_some h
  rw [enforceOperatorAccess, requiredControlPlaneRole_eq]
  cases hr : r.method with
  | get =>
    rw [hr, Method.accepts, Bool.or_eq_true, beq_iff_eq, beq_iff_eq] at hmethod
    rw [if_pos rfl, if_pos]
    rcases hmethod with hm | hm
    · exact Or.inl ((methodOf_eq hm (by decide) rfl (by decide)).trans (by decide +kernel))
    · exact Or.inr ((methodOf_eq hm (by decide) rfl (by decide)).trans (by decide +kernel))
  | post =>
    rw [hr, Method.accepts, beq_iff_eq] at hmethod
    obtain ⟨hq, heffect⟩ := suffixEffect_of_accepts (routes_recognised r hmem hr) hpath
    have hpost : methodOf ⟨req.method, none, some req.fullPath, req.body⟩ = "POST" :=
      (methodOf_eq hmethod (by decide) rfl (by decide)).trans (by decide +kernel)
    rw [show req.baseUrl ++ req.path = req.fullPath from rfl, hpost, routeOf_eq hq, heffect,
      if_neg (show ¬ ("POST" = "GET" ∨ "POST" = "HEAD") by decide),
      if_neg (show ¬ Method.post = Method.get by decide)]

/-- A high-impact handler is reached with the role of an administrator, unless a slash ends the
path. -/
theorem tradingAdmin_iff (numberText : Json → String) {req : Request} {r : Route}
    (h : dispatch req = some r) (himpact : HighImpact r.effect req.body) :
    enforceOperatorAccess numberText req = some .tradingAdmin ↔ ¬ TrailingSlash req.fullPath := by
  have hpost : r.method ≠ .get := by
    intro hget
    rw [routes_get r (List.mem_of_find?_eq_some h) hget] at himpact
    exact himpact
  rw [enforceOperatorAccess_eq numberText h, if_neg hpost]
  by_cases hslash : TrailingSlash req.fullPath
  · simp [hslash, mutationRole]
  · simp [hslash, mutationRole_of_highImpact numberText himpact]

/-- Two spellings of a path are judged alike, unless exactly one of them ends with a slash and the
policy reserves the handler. -/
theorem sameRole_iff (numberText : Json → String) {req req' : Request} {r : Route}
    (h : dispatch req = some r) (h' : dispatch req' = some r) (hbody : req'.body = req.body) :
    enforceOperatorAccess numberText req' = enforceOperatorAccess numberText req ↔
      (Reserved numberText r.effect req.body →
        (TrailingSlash req'.fullPath ↔ TrailingSlash req.fullPath)) := by
  rw [enforceOperatorAccess_eq numberText h, enforceOperatorAccess_eq numberText h', hbody]
  by_cases hget : r.method = .get
  · rw [if_pos hget, if_pos hget, routes_get r (List.mem_of_find?_eq_some h) hget]
    exact iff_of_true rfl False.elim
  rw [if_neg hget, if_neg hget]
  have hordinary : mutationRole numberText req.body .ordinary = some .operator := rfl
  by_cases hres : Reserved numberText r.effect req.body
  · have hne := mutationRole_of_reserved numberText hres
    by_cases hs : TrailingSlash req.fullPath <;> by_cases hs' : TrailingSlash req'.fullPath <;>
      simp [hs, hs', hres, hordinary, hne, Ne.symm hne]
  · have heq := mutationRole_of_not_reserved numberText hres
    refine iff_of_true ?_ fun hyes => absurd hyes hres
    split_ifs <;> simp [hordinary, heq]

/-- **Authorization and dispatch**: a request that reaches a high-impact handler needed the role of
an administrator exactly if no slash ends its path, and two spellings that reach one handler are
judged alike exactly if the policy does not reserve it or a slash ends both of them or neither. -/
theorem authorization_iff (numberText : Json → String) {req : Request} {r : Route}
    (h : dispatch req = some r) :
    ((HighImpact r.effect req.body →
        enforceOperatorAccess numberText req = some .tradingAdmin) ↔
      (HighImpact r.effect req.body → ¬ TrailingSlash req.fullPath)) ∧
    ∀ baseUrl path, dispatch { req with baseUrl, path } = some r →
      (enforceOperatorAccess numberText { req with baseUrl, path } =
          enforceOperatorAccess numberText req ↔
        (Reserved numberText r.effect req.body →
          (TrailingSlash (baseUrl ++ path) ↔ TrailingSlash req.fullPath))) :=
  ⟨forall_congr' fun himpact => tradingAdmin_iff numberText h himpact,
    fun _ _ h' => sameRole_iff numberText h h' rfl⟩

/-- `POST /api/system/continue/` with an empty body. -/
def continueWithSlash : Request := ⟨"POST", "/api/system", "/continue/", some (.obj [])⟩

theorem dispatch_continueWithSlash :
    dispatch continueWithSlash = some (post "/api/system/continue" .continueSession) := by
  decide +kernel

theorem authorization_iff_continueWithSlash :
    ((HighImpact .continueSession continueWithSlash.body →
        enforceOperatorAccess (fun _ => "0") continueWithSlash = some .tradingAdmin) ↔
      (HighImpact .continueSession continueWithSlash.body →
        ¬ TrailingSlash continueWithSlash.fullPath)) ∧
    ∀ baseUrl path,
      dispatch { continueWithSlash with baseUrl, path } =
        some (post "/api/system/continue" .continueSession) →
      (enforceOperatorAccess (fun _ => "0") { continueWithSlash with baseUrl, path } =
          enforceOperatorAccess (fun _ => "0") continueWithSlash ↔
        (Reserved (fun _ => "0") .continueSession continueWithSlash.body →
          (TrailingSlash (baseUrl ++ path) ↔ TrailingSlash continueWithSlash.fullPath))) :=
  authorization_iff (fun _ => "0") dispatch_continueWithSlash

/-- An operator continues an autonomous session. -/
theorem operator_continues :
    ¬ ∀ (numberText : Json → String) (req : Request) (r : Route), dispatch req = some r →
      HighImpact r.effect req.body →
        enforceOperatorAccess numberText req = some .tradingAdmin := by
  intro h
  have hadmin := h (fun _ => "0") continueWithSlash _ dispatch_continueWithSlash trivial
  exact absurd hadmin (by decide +kernel)

end Blessing.ControlPlane.Roles
