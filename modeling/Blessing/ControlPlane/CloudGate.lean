import Blessing.ControlPlane.ReleaseStore
import Blessing.Lib.DateTime

/-! # Cloud evidence at the two gates

The release gate reads the evidence of the cloud tier before it is hashed, and the control plane
looks at the same evidence before it creates a candidate. Both want an object with a list of checks,
`overall_passed` true and a time that is not too old; the control plane also refuses an empty list
of checks and a time in the future.

* `cloudTierPasses_iff`: what the release gate accepts.
* `validateGateOutputSubstance_eq_nil_iff`: what the control plane accepts.
* `gates_agree_iff`: on which evidence they decide alike. -/

namespace Blessing.ControlPlane.CloudGate

open Blessing.Lib Blessing.Lib.Values Blessing.Lib.JavaScript
open Blessing.ControlPlane.Release Blessing.ControlPlane.ReleaseStore

/-! ### The release gate -/

/-- A `cloud-gate-*.json` file: its name, when it was modified, and the document in it or why it
cannot be parsed. -/
structure EvidenceFile where
  name : String
  mtime : ℤ
  content : Except String Json

/-- What the runtime writes for times. -/
structure Runtime where
  /-- `isoformat()` of an instant in UTC -/
  isoformat : ℤ → String
  /-- the seconds of a duration without decimals -/
  wholeSeconds : ℤ → String
  /-- the text of the exception of `fromisoformat` -/
  parseError : String → String

section

variable (runtime : Runtime)

/-- `_synthetic_fail` -/
def syntheticFail (now : ℤ) (reason : String) : Json :=
  .obj [
    ("checks", .arr [.obj [("id", .str "cloud_evidence"), ("name", .str "Cloud-tier evidence file"),
      ("status", .str "FAIL"), ("message", .str reason)]]),
    ("overall_passed", .bool false),
    ("generated_at", .str (runtime.isoformat now))]

/-- The first instant of 1970, in microseconds since the year 1. -/
def unixEpoch : ℤ := ((DateTime.ymd2ord 1970 1 1 - 1) * DateTime.microsPerDay : ℕ)

/-- `_parse_utc`: the instant in microseconds since 1970. -/
def parseUtc (ts : String) : Option ℤ :=
  let clean := (Text.strip ts).toList
  let clean :=
    if clean.getLast? = some 'Z' then clean.dropLast ++ ['+', '0', '0', ':', '0', '0'] else clean
  (DateTime.fromIsoformat clean).map fun d => d.1 - d.2.getD 0 - unixEpoch

/-- The most recently modified file, the first one of several. -/
def mostRecent (files : List EvidenceFile) : Option EvidenceFile :=
  files.foldl (fun best file =>
    match best with
    | some b => if b.mtime < file.mtime then some file else best
    | none => some file) none

/-- `isinstance(v, list)`, `isinstance(v, bool)` and `isinstance(v, str)` of an entry. -/
def isArr : Option Json → Bool
  | some (.arr _) => true
  | _ => false

def isBool : Option Json → Bool
  | some (.bool _) => true
  | _ => false

def isStr : Option Json → Bool
  | some (.str _) => true
  | _ => false

/-- `_load_cloud_evidence`; `evidenceDir` holds the matching files, if there is such a directory. -/
def loadCloudEvidence (evidenceDir : Option (List EvidenceFile)) (maxCloudEvidenceAgeSec now : ℤ) :
    Json :=
  match evidenceDir with
  | none =>
    syntheticFail runtime now
      "Cloud evidence missing: evidence/ directory does not exist in repo root."
  | some candidates =>
    match mostRecent candidates with
    | none =>
      syntheticFail runtime now
        "Cloud evidence missing: no cloud-gate-*.json file found in evidence/."
    | some best =>
      match best.content with
      | .error e =>
        syntheticFail runtime now
          ("Cloud evidence malformed: could not parse " ++ best.name ++ " as JSON. Error: " ++ e)
      | .ok data =>
        if !data.isObj || !isArr (data.get? "checks") || !isBool (data.get? "overall_passed") ||
            !isStr (data.get? "generated_at") then
          syntheticFail runtime now
            ("Cloud evidence malformed: " ++ best.name ++ " does not have the required " ++
              "shape \x7b\x7bchecks: list, overall_passed: bool, generated_at: str\x7d\x7d.")
        else
          let ts := (data.get "generated_at").toStr
          match parseUtc ts with
          | none =>
            syntheticFail runtime now
              ("Cloud evidence malformed: could not parse generated_at timestamp '" ++
                ts ++ "' in " ++
                best.name ++ ". Error: " ++ runtime.parseError ts)
          | some generatedAt =>
            let age := now - generatedAt
            if maxCloudEvidenceAgeSec * 1000000 < age then
              syntheticFail runtime now
                ("Cloud evidence stale: " ++ best.name ++ " generated_at is " ++
                  runtime.wholeSeconds age ++ "s ago (limit: " ++ toString maxCloudEvidenceAgeSec ++
                  "s). Re-run infra/release_gate/cloud_gate.ps1 to refresh.")
            else data

/-- What `run_gate` returns. -/
structure GateResult where
  repoTier : Json
  cloudTier : Json
  overallPassed : Bool
  generatedAt : String

/-- `run_gate`, given what the repository gate says. -/
def runGate (repoTier : Json) (evidenceDir : Option (List EvidenceFile))
    (maxCloudEvidenceAgeSec now : ℤ) : GateResult :=
  let cloudTier := loadCloudEvidence runtime evidenceDir maxCloudEvidenceAgeSec now
  { repoTier := repoTier
    cloudTier := cloudTier
    overallPassed :=
      (repoTier.get "overall_passed").truthy && (cloudTier.get "overall_passed").truthy
    generatedAt := runtime.isoformat now }

end

/-- The cloud tier passes for a document: the gate returns the document, and it says so. -/
def CloudTierPasses (result : GateResult) (document : Json) : Prop :=
  result.cloudTier = document ∧ document.get? "overall_passed" = some (.bool true)

/-! ### What the gates accept -/

section

variable {runtime : Runtime} {host : Host} {repoTier : Json} {files : List EvidenceFile}
  {file : EvidenceFile} {document : Json} {s : String} {generatedAt now maxAgeSec : ℤ}

/-- A failure is not a document that says it has passed. -/
theorem syntheticFail_ne {reason : String}
    (h : document.get? "overall_passed" = some (.bool true)) :
    syntheticFail runtime now reason ≠ document := by
  rintro rfl
  simp [syntheticFail, Json.get?] at h

/-- What the release gate accepts: a list of checks, a pass, and a time that is not too old. -/
theorem cloudTierPasses_iff (hfile : mostRecent files = some file)
    (hcontent : file.content = .ok document)
    (htime : document.get? "generated_at" = some (.str s))
    (hparse : parseUtc s = some generatedAt) :
    CloudTierPasses (runGate runtime repoTier (some files) maxAgeSec now) document ↔
      isArr (document.get? "checks") = true ∧ document.get? "overall_passed" = some (.bool true) ∧
        now - generatedAt ≤ maxAgeSec * 1000000 := by
  have hobj : document.isObj = true := by
    cases document <;> first | rfl | cases htime
  have hts : (document.get "generated_at").toStr = s := by
    rw [Json.get, htime]
    rfl
  unfold CloudTierPasses runGate loadCloudEvidence
  simp only [hfile, hcontent, hobj, htime, hts, hparse, isStr]
  by_cases hpassed : document.get? "overall_passed" = some (.bool true)
  · by_cases hchecks : isArr (document.get? "checks") = true
    · by_cases hage : maxAgeSec * 1000000 < now - generatedAt
      · simp [hpassed, hchecks, hage, isBool, syntheticFail_ne hpassed, not_le.mpr hage]
      · simp [hpassed, hchecks, hage, isBool, not_lt.mp hage]
    · simp [hpassed, hchecks, syntheticFail_ne hpassed]
  · simp [hpassed]

/-- What the control plane accepts: a list with a check, a pass, and a time that is neither too old
nor in the future. -/
theorem validateGateOutputSubstance_eq_nil_iff
    (htime : document.get? "generated_at" = some (.str s))
    (hparse : host.js.dateParse (trim s) = some generatedAt) :
    validateGateOutputSubstance host true (some document) now maxAgeSec = [] ↔
      itemsOf (document.get? "checks") ≠ [] ∧ document.get? "overall_passed" = some (.bool true) ∧
        now - generatedAt ≤ maxAgeSec * 1000 ∧ generatedAt ≤ now := by
  obtain ⟨kvs, rfl⟩ : ∃ kvs, document = .obj kvs := by
    cases document with
    | obj kvs => exact ⟨kvs, rfl⟩
    | _ => cases htime
  unfold validateGateOutputSubstance
  simp only [htime, asString, hparse, List.append_eq_nil_iff, failing_eq_nil, if_true]
  constructor
  · rintro ⟨⟨hpassed, hchecks⟩, hage⟩
    exact ⟨hchecks, not_not.mp hpassed, by omega, by omega⟩
  · rintro ⟨hchecks, hpassed, hage, hpast⟩
    exact ⟨⟨not_not.mpr hpassed, hchecks⟩, by omega⟩

/-- Two tests of one candidate, of which the second also asks for `n` and `f`. -/
theorem stricter_iff {a p g n f : Prop} :
    (a ∧ p ∧ g ↔ (a ∧ ¬ n) ∧ p ∧ g ∧ f) ↔ ¬ (a ∧ p ∧ g ∧ (n ∨ ¬ f)) := by
  tauto

/-- **The two gates decide alike** on a document whose time both read as one instant, unless it
passes all the tests they share and has no check or a time in the future. -/
theorem gates_agree_iff (hfile : mostRecent files = some file)
    (hcontent : file.content = .ok document) (htime : document.get? "generated_at" = some (.str s))
    (hpython : parseUtc s = some (generatedAt * 1000))
    (hjs : host.js.dateParse (trim s) = some generatedAt) :
    (CloudTierPasses (runGate runtime repoTier (some files) maxAgeSec (now * 1000)) document ↔
        validateGateOutputSubstance host true (some document) now maxAgeSec = []) ↔
      ¬ (isArr (document.get? "checks") = true ∧ document.get? "overall_passed" =
        some (.bool true) ∧
        now - generatedAt ≤ maxAgeSec * 1000 ∧
        (document.get? "checks" = some (.arr []) ∨ now < generatedAt)) := by
  rw [cloudTierPasses_iff hfile hcontent htime hpython,
    validateGateOutputSubstance_eq_nil_iff htime hjs]
  have hage : now * 1000 - generatedAt * 1000 ≤ maxAgeSec * 1000000 ↔
      now - generatedAt ≤ maxAgeSec * 1000 := by omega
  have hitems : itemsOf (document.get? "checks") ≠ [] ↔
      isArr (document.get? "checks") = true ∧ document.get? "checks" ≠ some (.arr []) := by
    generalize document.get? "checks" = v
    cases v with
    | none => simp [itemsOf, isArr]
    | some v => cases v <;> simp [itemsOf, isArr]
  rw [hage, hitems, ← not_le]
  exact stricter_iff

end

/-! ### Evidence without checks -/

/-- Evidence of ten o'clock, with these checks. -/
def tenOClock (checks : List Json) : Json :=
  .obj [("checks", .arr checks), ("overall_passed", .bool true),
    ("generated_at", .str "2026-09-15T10:00:00Z")]

def evidenceOf (document : Json) : EvidenceFile :=
  ⟨"cloud-gate-20260915T100000Z.json", 0, .ok document⟩

/-- Half past ten of the same day, in milliseconds. -/
def halfPastTen : ℤ := 1789468200000

def sampleRuntime : Runtime where
  isoformat _ := "2026-09-15T10:30:00+00:00"
  wholeSeconds n := toString (n / 1000000)
  parseError ts := "Invalid isoformat string: '" ++ ts ++ "'"

/-- A host that reads the time of the evidence. -/
def sampleHost : Host where
  js :=
    { numberText := fun _ => ""
      numeric := fun _ => none
      dateParse := fun s => if s = "2026-09-15T10:00:00Z" then some 1789466400000 else none
      dataConnectCutover := none }
  toISOString := fun _ => "2026-09-15T10:30:00.000Z"
  hashEvidence := fun _ => ""
  sha256 := fun _ => ""

/-- Half an hour old evidence without a check passes the release gate, and the control plane refuses
it. -/
theorem empty_checks_disagree :
    parseUtc "2026-09-15T10:00:00Z" = some (1789466400000 * 1000) ∧
      sampleHost.js.dateParse (trim "2026-09-15T10:00:00Z") = some 1789466400000 ∧
      CloudTierPasses
        (runGate sampleRuntime (.obj [("overall_passed", .bool true)])
          (some [evidenceOf (tenOClock [])])
          86400 (halfPastTen * 1000)) (tenOClock []) ∧
      validateGateOutputSubstance sampleHost true (some (tenOClock [])) halfPastTen 86400 =
        ["cloudGateOutput.checks must be a non-empty array"] := by
  unfold CloudTierPasses
  decide +kernel

theorem gates_agree_iff_tenOClock :
    (CloudTierPasses (runGate sampleRuntime .null (some [evidenceOf (tenOClock [.null])]) 86400
          (halfPastTen * 1000)) (tenOClock [.null]) ↔
        validateGateOutputSubstance sampleHost true (some (tenOClock [.null])) halfPastTen 86400 =
        []) ↔
      ¬ (isArr ((tenOClock [.null]).get? "checks") = true ∧
        (tenOClock [.null]).get? "overall_passed" = some (.bool true) ∧
        halfPastTen - 1789466400000 ≤ 86400 * 1000 ∧
        ((tenOClock [.null]).get? "checks" = some (.arr []) ∨ halfPastTen < 1789466400000)) :=
  have hfile : mostRecent [evidenceOf (tenOClock [.null])] =
  some (evidenceOf (tenOClock [.null])) := rfl
  have htime : (tenOClock [.null]).get? "generated_at" = some (.str "2026-09-15T10:00:00Z") := rfl
  gates_agree_iff hfile rfl htime (by decide +kernel) (by decide +kernel)

end Blessing.ControlPlane.CloudGate
