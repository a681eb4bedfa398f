import Blessing.ControlPlane.Continuation

/-! # What a continuation request reports

A response that says the execution was not activated is right, except when the answer to an applied
`/continue` was lost or could not be read, or the audit log failed behind it (`truthful_iff`): then
the catch-all answers for a Worker that runs on its own. -/

namespace Blessing.ControlPlane.Truthful

open Blessing.Lib Blessing.Lib.Values Blessing.Lib.Handlers Blessing.ControlPlane.Release
  Blessing.ControlPlane.Continuation
open Blessing.Lib.Coroutine (Task ask attempt raising)

/-! ### The calls of a request -/

/-- The calls of the request with the turns they were answered in. -/
def calls : List Entry → List (Call × Turn) := List.filterMap fun
  | .asked c t => some (c, t)
  | .moved .. => none

@[simp] theorem calls_append (xs ys : List Entry) : calls (xs ++ ys) = calls xs ++ calls ys :=
  List.filterMap_append

section

variable (js : Platform) (stamp : ℤ → String) (env : ℕ → Turn)

@[simp] theorem calls_moves (own : Bool) (id : String) (before after : Continuations) :
    calls (moves own id before after) = [] := by
  unfold moves
  split
  · split_ifs <;> rfl
  · rfl

@[simp] theorem calls_commit (w : World) (own : Bool) (id : String) (after : Continuations) :
    calls (w.commit own id after).log = calls w.log := by
  simp [World.commit]

@[simp] theorem turn_commit (w : World) (own : Bool) (id : String) (after : Continuations) :
    (w.commit own id after).turn = w.turn := rfl

@[simp] theorem calls_other (w : World) (op : StoreOp × ℤ) :
    calls (w.other js stamp op).log = calls w.log := by
  unfold World.other
  split <;> simp

@[simp] theorem calls_others (w : World) (ops : List (StoreOp × ℤ)) :
    calls (ops.foldl (World.other js stamp) w).log = calls w.log := by
  induction ops generalizing w with
  | nil => rfl
  | cons op ops ih => rw [List.foldl_cons, ih, calls_other]

@[simp] theorem calls_transact {α : Type} (w : World) (t : Turn) (id : String)
    (tx : Except String (α × Continuations)) :
    calls (w.transact t id tx).2.log = calls w.log := by
  unfold World.transact
  split <;> simp

theorem calls_ask (c : Call) (w : World) :
    calls ((handler js stamp env).ask c w).2.log = calls w.log ++ [(c, env w.turn)] := by
  have hbefore : calls (w.before js stamp (env w.turn) c).log = calls w.log ++
      [(c, env w.turn)] := by
    rw [World.before, World.note, calls_append, calls_others]
    rfl
  rw [← hbefore]
  cases c <;> simp [handler, World.serve]

/-! ### The property and its condition -/

/-- `/continue` or an entry of the audit log. -/
def Loud : Call → Prop
  | .worker (.proceed _ _) | .audit _ => True
  | _ => False

/-- The Worker was asked to continue and did so. -/
def Activated (c : Call × Turn) : Prop :=
  match c.1 with
  | .worker (.proceed _ _) => c.2.applied = true
  | _ => False

/-- The Worker confirmed a disarm. -/
def Disarmed (c : Call × Turn) : Prop :=
  match c.1 with
  | .worker .disarm => c.2.lost = none ∧ c.2.reply.ok = true
  | _ => False

/-- A state read-back proved that the Worker does not run on its own. -/
def ProvedStopped (c : Call × Turn) : Prop :=
  match c.1 with
  | .worker .readback => c.2.lost = none ∧ provesStopped js c.2.reply = some true
  | _ => False

/-- A disarm, and behind it a proof that the Worker stopped. -/
def RolledBack (cs : List (Call × Turn)) : Prop :=
  ∃ xs d ys, cs = xs ++ d :: ys ∧ Disarmed d ∧ ∃ r ∈ ys, ProvedStopped js r

/-- The request left the Worker running on its own: it was asked to continue and did so, and no
disarm behind that was proved. -/
def LeftActive (cs : List (Call × Turn)) : Prop :=
  ∃ xs c ys, cs = xs ++ c :: ys ∧ Activated c ∧ ¬ RolledBack js ys

/-- If the Worker did continue, its answer arrived and could be read, and no entry of the audit log
was lost. -/
def Reported (cs : List (Call × Turn)) : Prop :=
  ∀ request approval t, (.worker (.proceed request approval), t) ∈ cs → t.applied = true →
    t.lost = none ∧
      (t.reply.ok = true →
        provesActivation js t.reply.data approval.continuationId approval ≠ none) ∧
      ∀ metadata t', (.audit metadata, t') ∈ cs → t'.lost = none

/-- No loud call so far. -/
def Silent (cs : List (Call × Turn)) : Prop := ∀ c ∈ cs, ¬ Loud c.1

variable {js stamp env}

theorem Silent.not_leftActive {cs : List (Call × Turn)} (h : Silent cs) : ¬ LeftActive js cs := by
  rintro ⟨xs, c, ys, rfl, hactive, -⟩
  refine h c (by simp) ?_
  unfold Activated at hactive
  split at hactive
  · next request approval hc => rw [hc]; trivial
  · exact hactive.elim

theorem Silent.reported {cs : List (Call × Turn)} (h : Silent cs) : Reported js cs :=
  fun _ _ _ hmem _ => absurd trivial (h _ hmem)

theorem Silent.append {cs ds : List (Call × Turn)} (h : Silent cs) (h' : Silent ds) :
    Silent (cs ++ ds) := by
  intro c hc
  rcases List.mem_append.mp hc with hc | hc
  · exact h c hc
  · exact h' c hc

/-- `/continue`. -/
def IsProceed : Call → Prop
  | .worker (.proceed _ _) => True
  | _ => False

theorem Silent.noProceed {cs : List (Call × Turn)} (h : Silent cs) : ∀ c ∈ cs, ¬ IsProceed c.1 := by
  intro c hc hproceed
  refine h c hc ?_
  unfold IsProceed at hproceed
  split at hproceed
  · next request approval heq => rw [heq]; trivial
  · exact hproceed.elim

theorem isProceed_of_activated {c : Call × Turn} (h : Activated c) : IsProceed c.1 := by
  unfold Activated at h
  split at h
  · next request approval heq => rw [heq]; trivial
  · exact h.elim

/-- A list is cut in one way at its only `/continue`. -/
theorem split_unique {xs ys cs ds : List (Call × Turn)} {c p : Call × Turn}
    (h : cs ++ p :: ds = xs ++ c :: ys) (hc : IsProceed c.1) (hcs : ∀ c ∈ cs, ¬ IsProceed c.1)
    (hds : ∀ c ∈ ds, ¬ IsProceed c.1) : xs = cs ∧ c = p ∧ ys = ds := by
  rcases List.append_eq_append_iff.mp h with ⟨us, rfl, hus⟩ | ⟨us, rfl, hus⟩
  · cases us with
    | nil =>
      obtain ⟨rfl, rfl⟩ := List.cons_eq_cons.mp hus
      exact ⟨by simp, rfl, rfl⟩
    | cons u us =>
      obtain ⟨-, rfl⟩ := List.cons_eq_cons.mp hus
      exact absurd hc (hds c (by simp))
  · cases us with
    | nil =>
      obtain ⟨rfl, rfl⟩ := List.cons_eq_cons.mp hus
      exact ⟨by simp, rfl, rfl⟩
    | cons u us =>
      obtain ⟨rfl, -⟩ := List.cons_eq_cons.mp hus
      exact absurd hc (hcs c (by simp))

theorem not_rolledBack {cs : List (Call × Turn)} (h : ∀ c ∈ cs, ¬ Disarmed c) :
    ¬ RolledBack js cs := by
  rintro ⟨xs, d, ys, rfl, hd, -⟩
  exact h d (by simp) hd

section

variable {cs ds : List (Call × Turn)} {request : ContinueRequest} {approval : ContinuationApproval}
  {t : Turn}

theorem leftActive_iff (hcs : Silent cs) (hds : ∀ c ∈ ds, ¬ IsProceed c.1) :
    LeftActive js (cs ++ (.worker (.proceed request approval), t) :: ds) ↔
      t.applied = true ∧ ¬ RolledBack js ds := by
  constructor
  · rintro ⟨xs, c, ys, hsplit, hactive, hnot⟩
    obtain ⟨-, rfl, rfl⟩ := split_unique hsplit (isProceed_of_activated hactive) hcs.noProceed hds
    exact ⟨hactive, hnot⟩
  · rintro ⟨happlied, hnot⟩
    exact ⟨cs, _, ds, rfl, happlied, hnot⟩

theorem reported_iff (hcs : Silent cs) (hds : ∀ c ∈ ds, ¬ IsProceed c.1) :
    Reported js (cs ++ (.worker (.proceed request approval), t) :: ds) ↔
      (t.applied = true → t.lost = none ∧
        (t.reply.ok = true →
          provesActivation js t.reply.data approval.continuationId approval ≠ none) ∧
        ∀ metadata t', (.audit metadata, t') ∈ ds → t'.lost = none) := by
  constructor
  · intro h happlied
    obtain ⟨hlost, hread, haudit⟩ := h request approval t (by simp) happlied
    exact ⟨hlost, hread, fun metadata t' hmem => haudit metadata t' (by simp [hmem])⟩
  · intro h request' approval' t' hmem happlied
    obtain ⟨xs, ys, hsplit⟩ := List.append_of_mem hmem
    obtain ⟨-, heq, -⟩ := split_unique hsplit trivial hcs.noProceed hds
    cases heq
    obtain ⟨hlost, hread, haudit⟩ := h happlied
    refine ⟨hlost, hread, fun metadata u hu => ?_⟩
    rcases List.mem_append.mp hu with hu | hu
    · exact absurd trivial (hcs _ hu)
    · rcases List.mem_cons.mp hu with hu | hu
      · cases hu
      · exact haudit metadata u hu

end

/-! ### The request around `/continue` -/

/-- `Silent` of a world. -/
def SilentWorld (w : World) : Prop := Silent (calls w.log)

theorem preserves_await {c : Call} (hc : ¬ Loud c) :
    Preserves (handler js stamp env) (fun _ => False) SilentWorld (fun _ => False) (await c) := by
  refine .bind (.ask fun w hw => ?_) fun a => .raising a
  rw [SilentWorld, calls_ask]
  exact hw.append (by simpa [Silent] using hc)

theorem preserves_forward {wc : WorkerCall} (hc : ¬ Loud (.worker wc)) :
    Preserves (handler js stamp env) (fun _ => False) SilentWorld (fun _ => False)
      (forwardWorkerRequest wc) := preserves_await hc

/-- The answer for a response or an exception of the handler inside its `try`: a response is right
and its run is reported, an exception is reported as not activated. -/
def Judged (js : Platform) (r : Except String Response) (w : World) : Prop :=
  match r with
  | .ok response =>
    (response.executionActivated = some (.bool false) → ¬ LeftActive js (calls w.log)) ∧
      Reported js (calls w.log)
  | .error _ => ¬ LeftActive js (calls w.log) ↔ Reported js (calls w.log)

theorem judged_of_silent (r : Except String Response) (w : World) (h : SilentWorld w) :
    Judged js r w := by
  cases r with
  | ok response => exact ⟨fun _ => h.not_leftActive, h.reported⟩
  | error e => exact iff_of_true h.not_leftActive h.reported

/-- A call to the Worker in front of the rest of the handler: the answer arrives or is lost. -/
theorem ends_forward {α : Type} {wc : WorkerCall} {f : WorkerReply → Request α} {w : World}
    {P : Except String α → World → Prop} (harrived : (env w.turn).lost = none →
      Ends (handler js stamp env) (f (env w.turn).reply)
      ((handler js stamp env).ask (.worker wc) w).2 P) (hlost : ∀ e, (env w.turn).lost = some e →
      P (.error e) ((handler js stamp env).ask (.worker wc) w).2) :
    Ends (handler js stamp env) (forwardWorkerRequest wc >>= f) w P := by
  refine ends_bind.mpr (ends_ask_bind.mpr (ends_raising.mpr ?_))
  have hanswer : ((handler js stamp env).ask (.worker wc) w).1 =
      (env w.turn).answer (.ok (env w.turn).reply) := rfl
  rw [hanswer, Turn.answer]
  cases h : (env w.turn).lost with
  | none => exact harrived h
  | some e => exact hlost e h

/-- What a rollback adds: no loud call, and a verified one is proved by its calls. -/
def RollbackAdds (js : Platform) (w : World) (verified : Bool) (w' : World) : Prop :=
  ∃ ds, calls w'.log = calls w.log ++ ds ∧ Silent ds ∧ (verified = true → RolledBack js ds)

theorem rollback_ends (w : World) :
    Ends (handler js stamp env) (rollbackAutonomousContinuation js) w fun r w' =>
      ∃ rollback, r = .ok rollback ∧ RollbackAdds js w rollback.verified w' := by
  have hcalls := calls_ask js stamp env (.worker .readback)
    ((handler js stamp env).ask (.worker .disarm) w).2
  rw [calls_ask js stamp env (.worker .disarm) w, List.append_assoc] at hcalls
  refine ends_attempt_bind.mpr (ends_forward (fun hdisarm => ?_) fun e _ => ?_)
  · split_ifs with hok
    · refine ends_pure.mpr ⟨_, rfl, _, calls_ask js stamp env _ _, ?_, nofun⟩
      simp [Silent, Loud]
    · refine ends_forward (fun hread => ?_) fun e _ => ?_
      · refine ends_bind.mpr (ends_raising.mpr ?_)
        cases hp : provesStopped js
            (env ((handler js stamp env).ask (.worker .disarm) w).2.turn).reply with
        | none => exact ⟨_, rfl, _, hcalls, by simp [Silent, Loud], nofun⟩
        | some verified =>
          refine ⟨_, rfl, _, hcalls, by simp [Silent, Loud], ?_⟩
          rintro rfl
          refine ⟨[], _, _, rfl, ⟨hdisarm, by simpa using hok⟩, _, List.mem_singleton_self _, ?_⟩
          exact ⟨hread, hp⟩
      · exact ⟨_, rfl, _, hcalls, by simp [Silent, Loud], nofun⟩
  · exact ⟨_, rfl, _, calls_ask js stamp env _ _, by simp [Silent, Loud], nofun⟩

/-- The release of an approval adds its call, whatever becomes of it. -/
theorem release_ends {α : Type} (id : String) (x : Request α) (w : World)
    {P : Except String α → World → Prop}
    (h : Ends (handler js stamp env) x ((handler js stamp env).ask (.release id) w).2 P) :
    Ends (handler js stamp env) (releaseContinuationApprovalBestEffort id >>= fun _ => x) w P := by
  refine ends_bind.mpr (ends_attempt_bind.mpr (ends_ask_bind.mpr (ends_raising.mpr ?_)))
  exact h

/-- The fields in front of those of a rollback do not report on the activation. -/
theorem executionActivated_undo {fields : Dict} {rollback : Rollback} {status : ℕ}
    (h : (Json.obj fields).get? "executionActivated" = none) :
    Response.executionActivated ⟨status, fields ++ rollbackFields rollback⟩ =
      some (.bool (!rollback.verified)) := by
  rw [Json.get?, Option.map_eq_none_iff] at h
  simp [Response.executionActivated, Json.get?, List.find?_append, h, rollbackFields]

/-- What the Worker says about itself does not report on the activation. -/
theorem executionActivated_spread {data : Json} {extra : Dict} {status : ℕ}
    (h : data.get? "executionActivated" = none)
    (hextra : "executionActivated" ∉ extra.map Prod.fst) :
    Response.executionActivated ⟨status, spread data extra⟩ = none := by
  have hentries : ∀ kv ∈ entriesOf data, ¬ (kv.1 == "executionActivated") = true := by
    have hget : data.get? "executionActivated" =
        ((entriesOf data).find? (·.1 == "executionActivated")).map (·.2) := by
      cases data <;> rfl
    rwa [hget, Option.map_eq_none_iff, List.find?_eq_none] at h
  rw [Response.executionActivated, Json.get?, Option.map_eq_none_iff, List.find?_eq_none, spread]
  intro kv hkv
  rcases List.mem_append.mp hkv with hkv | hkv
  · exact hentries kv (List.mem_filter.mp hkv).1
  · rw [beq_iff_eq]
    rintro heq
    exact hextra (heq ▸ List.mem_map_of_mem hkv)

/-- A run that undoes the activation ends with a response that is right, if the answer to
`/continue` arrived and could be read. -/
theorem undo_judged {approval approval' : ContinuationApproval} {request : ContinueRequest}
    {status : ℕ} {fields : Dict} {w : World} {cs ds : List (Call × Turn)} {t : Turn}
    (hcs : Silent cs) (hds : Silent ds)
    (hcalls : calls w.log = cs ++ (.worker (.proceed request approval'), t) :: ds)
    (hlost : t.lost = none) (hread : t.reply.ok = true →
      provesActivation js t.reply.data approval'.continuationId approval' ≠ none)
    (hfields : (Json.obj fields).get? "executionActivated" = none) :
    Ends (handler js stamp env) (undo js approval status fields) w (Judged js) := by
  refine ends_bind.mpr ((rollback_ends w).mono fun r w' hroll => ?_)
  obtain ⟨rollback, rfl, es, hes, hsilent, hback⟩ := hroll
  refine release_ends _ _ w' (ends_pure.mpr ?_)
  have hrest : Silent (ds ++ (es ++ [(.release approval.continuationId, env w'.turn)])) :=
    hds.append (hsilent.append (by simp [Silent, Loud]))
  rw [Judged, calls_ask, hes, hcalls, List.append_assoc, List.append_assoc, List.cons_append,
    executionActivated_undo hfields, leftActive_iff hcs hrest.noProceed,
    reported_iff hcs hrest.noProceed]
  refine ⟨fun hfalse => ?_, fun _ => ⟨hlost, hread, fun metadata t' hmem => ?_⟩⟩
  · obtain ⟨xs, d, ys, rfl, hd, r, hr, hstop⟩ := hback (by simpa using hfalse)
    rintro ⟨-, hnot⟩
    exact hnot ⟨ds ++ xs, d, ys ++ [(.release approval.continuationId, env w'.turn)], by simp, hd,
      r, by simp [hr], hstop⟩
  · exact absurd trivial (hrest _ hmem)

theorem confirm_judged {approval : ContinuationApproval} {request : ContinueRequest} {w : World}
    {cs : List (Call × Turn)} {t : Turn} (hcs : Silent cs)
    (hcalls : calls w.log = cs ++ [(.worker (.proceed request approval), t)])
    (hlost : t.lost = none) :
    Ends (handler js stamp env) (confirm js approval t.reply) w (Judged js) := by
  have hnil : Silent [] := by simp [Silent]
  rw [confirm]
  split_ifs with hok
  · refine undo_judged hcs hnil hcalls hlost (fun h => ?_) (by simp [Json.get?])
    rw [hok] at h
    cases h
  refine ends_bind.mpr (ends_raising.mpr ?_)
  cases hproves : provesActivation js t.reply.data approval.continuationId approval with
  | none =>
    -- the catch-all answers for an answer that cannot be read
    change ¬ LeftActive js (calls w.log) ↔ Reported js (calls w.log)
    rw [hcalls, leftActive_iff hcs (by simp), reported_iff hcs (by simp)]
    simp [hproves, hok, RolledBack]
  | some proved =>
    have hread : t.reply.ok = true →
        provesActivation js t.reply.data approval.continuationId approval ≠ none := by
      simp [hproves]
    rw [Option.elim_some]
    change Ends _ (if proved = false then _ else _) w _
    split_ifs with hfalse
    · exact undo_judged hcs hnil hcalls hlost hread (by simp [Json.get?])
    refine ends_attempt_bind.mpr (ends_ask_bind.mpr (ends_raising.mpr ?_))
    have hconsume : calls ((handler js stamp env).ask (.consume approval.continuationId) w).2.log =
        cs ++ (.worker (.proceed request approval), t) ::
          [(.consume approval.continuationId, env w.turn)] := by
      rw [calls_ask, hcalls]
      simp
    cases ((handler js stamp env).ask (.consume approval.continuationId) w).1 with
    | error e =>
      exact undo_judged hcs (by simp [Silent, Loud]) hconsume hlost hread (by simp [Json.get?])
    | ok consumed =>
      -- the approval is consumed: only the audit log is left to fail
      refine ends_bind.mpr (ends_ask_bind.mpr (ends_raising.mpr ?_))
      generalize hw' : ((handler js stamp env).ask (.consume approval.continuationId) w).2 = w'
        at hconsume ⊢
      have haudit (metadata : Json) :
          calls ((handler js stamp env).ask (.audit metadata) w').2.log =
            cs ++ (.worker (.proceed request approval), t) ::
              [(.consume approval.continuationId, env w.turn), (.audit metadata, env w'.turn)] := by
        rw [calls_ask, hconsume]
        simp
      have hquiet (metadata : Json) : ∀ c ∈ [((Call.consume approval.continuationId), env w.turn),
          (.audit metadata, env w'.turn)], ¬ IsProceed c.1 := by
        simp [IsProceed]
      have hanswer (metadata : Json) : ((handler js stamp env).ask (.audit metadata) w').1 =
          (env w'.turn).answer (.ok ()) := rfl
      rw [hanswer, Turn.answer]
      cases haudited : (env w'.turn).lost with
      | some e =>
        change ¬ LeftActive js (calls _) ↔ Reported js (calls _)
        have hback (metadata : Json) : ¬ RolledBack js
            [(Call.consume approval.continuationId, env w.turn), (.audit metadata, env w'.turn)] :=
          not_rolledBack (by simp [Disarmed])
        rw [haudit, leftActive_iff hcs (hquiet _), reported_iff hcs (hquiet _)]
        simp [haudited, hback]
      | none =>
        refine ends_pure.mpr ?_
        rw [Judged, haudit, reported_iff hcs (hquiet _),
          executionActivated_spread t.reply.plain (by simp)]
        refine ⟨fun h => ?_, by simp [hlost, hproves, haudited]⟩
        cases h

/-! ### The whole request -/

/-- A step in front of the rest of the handler that is not loud. -/
theorem leads_bind {α : Type} {x : Request α} {f : α → Request Response}
    (hx : Preserves (handler js stamp env) (fun _ => False) SilentWorld (fun _ => False) x)
    (hf : ∀ a, Leads (handler js stamp env) SilentWorld (Judged js) (f a)) :
    Leads (handler js stamp env) SilentWorld (Judged js) (x >>= f) :=
  .bind hx hf fun _ _ => judged_of_silent _ _

theorem leads_pure (response : Response) :
    Leads (handler js stamp env) SilentWorld (Judged js) (pure response) :=
  .pure fun _ => judged_of_silent _ _

theorem preserves_readiness (launchId : String) :
    Preserves (handler js stamp env) (fun _ => False) SilentWorld (fun _ => False)
      (runContinuationReadiness js launchId) := by
  unfold runContinuationReadiness
  refine .guard (.bind (preserves_forward (by simp [Loud])) fun forwarded => ?_)
  exact .guard (.raising _)

theorem activate_judged (request : ContinueRequest) (approval : ContinuationApproval) :
    Leads (handler js stamp env) SilentWorld (Judged js) (activate js request approval) := by
  unfold activate
  with_reducible refine leads_bind (preserves_readiness _) fun readiness => ?_
  refine leads_bind (preserves_forward (by simp [Loud])) fun latestState => ?_
  refine .guard (fun _ => judged_of_silent _ _) ?_
  refine leads_bind (.raising _) fun snapshot => ?_
  with_reducible refine leads_bind (preserves_await (by simp [Loud])) fun now => ?_
  refine .ite ?_ ?_
  · refine leads_bind (.bind (.attempt (preserves_await (by simp [Loud]))) fun _ => .pure _) ?_
    exact fun _ => leads_pure _
  · intro w hw
    have hcalls := calls_ask js stamp env (.worker (.proceed request approval)) w
    refine ends_forward (fun hlost => confirm_judged hw hcalls hlost) fun e hlost => ?_
    -- the answer to `/continue` is lost
    change ¬ LeftActive js (calls _) ↔ Reported js (calls _)
    rw [hcalls, leftActive_iff hw (by simp), reported_iff hw (by simp)]
    have hback : ¬ RolledBack js [] := not_rolledBack (by simp)
    simp [hlost, hback]

theorem continueBody_judged (request : ContinueRequest) :
    Leads (handler js stamp env) SilentWorld (Judged js) (continueBody js request) := by
  unfold continueBody
  refine leads_bind (preserves_await (by simp [Loud])) fun found => ?_
  cases found with
  | none => exact leads_pure _
  | some approval =>
    refine leads_bind (preserves_await (by simp [Loud])) fun candidate => ?_
    refine .ite (leads_pure _) (leads_bind (preserves_await (by simp [Loud])) fun consumed => ?_)
    refine .ite (leads_pure _) (leads_bind (preserves_forward (by simp [Loud])) fun existing => ?_)
    refine leads_bind (.raising _) fun alreadyActive => ?_
    refine .ite ?_ (.ite (leads_pure _) ?_)
    · refine .ite ?_ (leads_pure _)
      exact leads_bind (preserves_await (by simp [Loud])) fun _ => leads_pure _
    · with_reducible
        refine leads_bind (preserves_await (by simp [Loud]))
          fun claimed => activate_judged _ claimed

/-- A request ends with a response that is right exactly if its run is reported. -/
theorem continueRequest_ends (body : Option Json) (t : Continuations) :
    Ends (handler js stamp env) (continueRequest js body) { continuations := t } fun r w =>
      (∀ response, r = .ok response → response.executionActivated = some (.bool false) →
        ¬ LeftActive js (calls w.log)) ↔ Reported js (calls w.log) := by
  have hsilent : SilentWorld { continuations := t } := by simp [SilentWorld, Silent, calls]
  unfold continueRequest
  split
  · exact iff_of_true nofun hsilent.reported
  · exact iff_of_true (fun _ _ _ => hsilent.not_leftActive) hsilent.reported
  · refine ends_attempt_bind.mpr ((continueBody_judged _ _ hsilent).mono fun r w hjudged => ?_)
    cases r with
    | ok response =>
      refine iff_of_true ?_ hjudged.2
      rintro _ ⟨⟩
      exact hjudged.1
    | error message =>
      have hfalse : (failed message).executionActivated = some (.bool false) := by
        simp [failed, Response.executionActivated, Json.get?]
      have hiff : ¬ LeftActive js (calls w.log) ↔ Reported js (calls w.log) := hjudged
      refine ends_pure.mpr ?_
      rw [← hiff]
      constructor
      · exact fun h => h _ rfl hfalse
      · exact fun h _ _ _ => h

end

variable (js : Platform) (stamp : ℤ → String) (env : ℕ → Turn) (body : Option Json)
  (t : Continuations)

/-- A response that says the execution was not activated is right. -/
def ReportsTruthfully : Prop :=
  ∀ response, (run js stamp env body t).1 = .ok response →
    response.executionActivated = some (.bool false) →
      ¬ LeftActive js (calls (run js stamp env body t).2.log)

variable {js stamp env body t}

theorem reported_of_reportsTruthfully (h : ReportsTruthfully js stamp env body t) :
    Reported js (calls (run js stamp env body t).2.log) := by
  unfold ReportsTruthfully at h
  rw [run, calls_others] at h ⊢
  exact (continueRequest_ends body t).mp h

/-- **The report on a continuation**: whatever other requests do and whatever fails, a response that
says the execution was not activated is right exactly if the answer to an applied `/continue`
arrived, could be read, and the audit log did not fail behind it. -/
theorem truthful_iff (js : Platform) (stamp : ℤ → String) (env : ℕ → Turn) (body : Option Json)
    (t : Continuations) :
    ReportsTruthfully js stamp env body t ↔
    Reported js (calls (run js stamp env body t).2.log) := by
  refine ⟨reported_of_reportsTruthfully, fun h => ?_⟩
  unfold ReportsTruthfully
  rw [run, calls_others] at h ⊢
  exact (continueRequest_ends body t).mpr h

/-- Some `/continue` of the calls was applied, and its answer lost. -/
def lostActivation (cs : List (Call × Turn)) : Bool := cs.any fun c =>
  match c.1 with
  | .worker (.proceed _ _) => c.2.applied && c.2.lost.isSome
  | _ => false

theorem not_reported_of_lostActivation {js : Platform} {cs : List (Call × Turn)}
    (h : lostActivation cs = true) : ¬ Reported js cs := by
  intro hreported
  obtain ⟨⟨c, t⟩, hmem, hc⟩ := List.any_eq_true.mp h
  split at hc
  · next request approval heq =>
    obtain ⟨happlied, hlost⟩ : t.applied = true ∧ t.lost.isSome = true := by simpa using hc
    obtain rfl : c = _ := heq
    rw [(hreported request approval t hmem happlied).1] at hlost
    cases hlost
  · cases hc

/-- The answer to an applied `/continue` is lost, and the response denies the activation. -/
theorem lost_answer_denied : ¬ ∀ (js : Platform) (stamp : ℤ → String) (env : ℕ → Turn)
    (body : Option Json) (t : Continuations), ReportsTruthfully js stamp env body t := by
  intro h
  have hlost : lostActivation (calls (run platform (fun _ => "") (scenario [8])
      (some continueBodyJson) [pendingApproval]).2.log) = true := by decide +kernel
  exact not_reported_of_lostActivation hlost (reported_of_reportsTruthfully (h _ _ _ _ _))

end Blessing.ControlPlane.Truthful
