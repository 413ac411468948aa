/-
  Values by name. What a name stands for decides how it is looked up and what is stored under it
  (`Referent`, `value?_eq`, `storing_setValue`); of the state of a run, a value depends on nothing
  else than what its name stands for (`value?_congr`). So a stored value is read back under every
  name that stands for the same, and under no other name anything else is read than before; only a
  device keeps nothing of what it is given (`stored_is_read_back`).
-/
import Playbook.Context
import Playbook.Proofs.Disk

namespace Playbook.Context

open Playbook.Text

variable {σ : Type} {c c' : Context σ} {w w' : World σ} {name value : String}

/-! ## What names stand for -/

/-- What a name stands for. -/
inductive Referent where
  /-- A constant, or nothing at all: nothing is stored under the name. -/
  | fixed
  | status
  | result
  | file (file : String)
  | variable_
  deriving DecidableEq

/-- What a name stands for; names that are too long stand for nothing. -/
def referent (name : String) : Referent :=
  if name.isEmpty ∨ (constant? name).isSome ∨ maxNameLength < name.toList.length then .fixed
  else if name = statusName then .status
  else if name ∈ resultNames then .result
  else
    match file? name with
    | some file => .file file
    | none => .variable_

theorem referent_of_result (h : name ∈ resultNames) : referent name = .result := by
  have hall : ∀ name ∈ resultNames, referent name = .result := by decide
  exact hall name h

theorem name_of_referent_status (h : referent name = .status) : name = statusName := by
  unfold referent at h
  grind

/-- Looking up goes by what the name stands for. -/
theorem value?_eq (c : Context σ) (w : World σ) (name : String) :
    c.value? w name =
      match referent name with
      | .fixed => constant? name
      | .status => some c.status.tag
      | .result => some c.result
      | .file file => c.fileText? w file
      | .variable_ => c.storedValue? w name := by
  unfold value? namedValue? referent
  by_cases hempty : name.isEmpty
  · obtain rfl : name = "" := by simpa using hempty
    rfl
  cases hconstant : constant? name with
  | some text => simp [hempty]
  | none =>
    by_cases hlength : maxNameLength < name.toList.length
    · simp [hempty, hlength]
    by_cases hstatus : name = statusName
    · simp [hempty, hlength, if_pos hstatus]
    by_cases hresult : name ∈ resultNames
    · simp [hempty, hlength, hstatus, hresult]
    cases hfile : file? name <;> simp [hempty, hlength, hstatus, hresult]

/-- The file that is read is the one that the name stands for, or that its variable does. -/
theorem fileRead?_eq (c : Context σ) (name : String) :
    c.fileRead? name =
      match referent name with
      | .file file => some file
      | .variable_ => (c.vars.get? name).bind file?
      | _ => none := by
  unfold fileRead? referent
  by_cases hempty : name.isEmpty
  · simp [hempty]
  cases hconstant : constant? name with
  | some text => simp [hempty]
  | none =>
    by_cases hlength : maxNameLength < name.toList.length
    · simp [hempty, hlength]
    by_cases hstatus : name = statusName
    · rw [if_pos (by simp [hstatus])]
      simp [hempty, hlength, if_pos hstatus]
    by_cases hresult : name ∈ resultNames
    · simp [hempty, hlength, hstatus, hresult]
    cases hfile : file? name <;> simp [hempty, hlength, hstatus, hresult]

/-- The value of a variable that stands for no file does not depend on files. -/
theorem storedValue?_congr (hworkflow : c'.workflow = c.workflow)
    (hvar : c'.vars.get? name = c.vars.get? name) (hfile : (c.vars.get? name).bind file? = none)
    (henvironment : w'.environment = w.environment) :
    c'.storedValue? w' name = c.storedValue? w name := by
  unfold storedValue? environment?
  rw [hvar, hworkflow, henvironment]
  cases hheld : c.vars.get? name with
  | none => rfl
  | some held =>
    rw [hheld, Option.bind_some] at hfile
    dsimp only
    rw [hfile]

theorem storedValue?_of_file {held file : String} (hvar : c.vars.get? name = some held)
    (hfile : file? held = some file) : c.storedValue? w name = c.fileText? w file := by
  unfold storedValue?
  rw [hvar]
  dsimp only
  rw [hfile]

/-- What the value of a name depends on. -/
theorem value?_congr (hworkflow : c'.workflow = c.workflow)
    (hstatus : referent name = .status → c'.status = c.status)
    (hresult : referent name = .result → c'.result = c.result)
    (hvar : referent name = .variable_ → c'.vars.get? name = c.vars.get? name)
    (hfile : ∀ file, c.fileRead? name = some file → c'.fileText? w' file = c.fileText? w file)
    (henvironment : w'.environment = w.environment) :
    c'.value? w' name = c.value? w name := by
  simp only [fileRead?_eq] at hfile
  rw [value?_eq, value?_eq]
  cases hname : referent name with
  | fixed => rfl
  | status => exact congrArg (fun status => some status.tag) (hstatus hname)
  | result => exact congrArg some (hresult hname)
  | file file =>
    rw [hname] at hfile
    exact hfile file rfl
  | variable_ =>
    rw [hname] at hfile
    have hsame := hvar hname
    cases hheld : (c.vars.get? name).bind file? with
    | none => exact storedValue?_congr hworkflow hsame hheld henvironment
    | some file =>
      obtain ⟨held, hget, hown⟩ := Option.bind_eq_some_iff.mp hheld
      dsimp only
      rw [storedValue?_of_file hget hown, storedValue?_of_file (hsame.trans hget) hown,
        hfile file hheld]

/-! ## Storing -/

/-- What it comes to that a value is stored under a name. -/
inductive Storing (c : Context σ) (w : World σ) (name value : String) : Context σ → World σ → Prop
  | fixed (named : referent name = .fixed) (notice : Notice) :
    Storing c w name value c (w.tell notice)
  | noStatus (named : referent name = .status) (invalid : Status.ofText? value = none)
      (notice : Notice) : Storing c w name value c (w.tell notice)
  | status (named : referent name = .status) {status : Status}
      (valid : Status.ofText? value = some status) : Storing c w name value { c with status } w
  | result (named : referent name = .result) :
    Storing c w name value { c with result := value } w
  | written {file : String} (named : referent name = .file file) {disk : Disk}
      (done : w.disk.writeText (c.filePath file) value = .ok disk) (notice : Notice) :
    Storing c w name value c { w.tell notice with disk }
  | unwritten {file : String} (named : referent name = .file file) {fault : Fault}
      (failed : w.disk.writeText (c.filePath file) value = .error fault) (notice more : Notice) :
    Storing c w name value c ((w.tell notice).tell more)
  | variable_ (named : referent name = .variable_) :
    Storing c w name value { c with vars := c.vars.insert name value } w

theorem storing_store (c : Context σ) (w : World σ) {name : String} (value : String)
    (usable : referent name ≠ .fixed)
    (valid : referent name = .status → (Status.ofText? value).isSome) :
    Storing c w name value (c.store w name value).1 (c.store w name value).2 := by
  have hreferent : referent name = if name = statusName then .status
      else if name ∈ resultNames then .result
      else match file? name with
        | some file => .file file
        | none => .variable_ := by
    unfold referent at usable ⊢
    split
    · next hfixed => exact absurd (if_pos hfixed) usable
    · rfl
  unfold store
  by_cases hstatus : name = statusName
  · rw [if_pos hstatus] at hreferent ⊢
    obtain ⟨status, hvalue⟩ := Option.isSome_iff_exists.mp (valid hreferent)
    rw [hvalue]
    exact .status hreferent hvalue
  rw [if_neg hstatus] at hreferent ⊢
  by_cases hresult : name ∈ resultNames
  · rw [if_pos hresult] at hreferent ⊢
    exact .result hreferent
  rw [if_neg hresult] at hreferent ⊢
  cases hfile : file? name with
  | none =>
    rw [hfile] at hreferent
    exact .variable_ hreferent
  | some file =>
    rw [hfile] at hreferent
    dsimp only
    split
    · next hwrite => exact .written (w := w) hreferent hwrite _
    · next hwrite => exact .unwritten (w := w) hreferent hwrite _ _

/-- What keeps a value from being stored. -/
theorem setFault?_isSome_iff : (setFault? name value).isSome ↔
    referent name = .fixed ∨ referent name = .status ∧ Status.ofText? value = none := by
  have hnone : (Status.ofText? value).isNone = true ↔ Status.ofText? value = none :=
    Option.isNone_iff_eq_none
  unfold setFault? referent
  split
  · next hempty => simp [hempty]
  split
  · next hconstant => simp [hconstant]
  split
  · next hlength => simp [hlength]
  split
  · grind
  · grind

theorem storing_setValue (c : Context σ) (w : World σ) (name value : String) :
    Storing c w name value (c.setValue w name value).1 (c.setValue w name value).2 := by
  unfold setValue
  cases hfault : setFault? name value with
  | none =>
    have hopen : ¬ (setFault? name value).isSome := by rw [hfault]; decide
    rw [setFault?_isSome_iff, not_or, not_and] at hopen
    exact storing_store c w value hopen.1 fun h => Option.isSome_iff_ne_none.mpr (hopen.2 h)
  | some fault =>
    have hbarred : (setFault? name value).isSome := by rw [hfault]; rfl
    rcases setFault?_isSome_iff.mp hbarred with hfixed | ⟨hstatus, hvalue⟩
    · exact .fixed hfixed _
    · exact .noStatus hstatus hvalue _

/-! ## Reading back -/

/-- To look up the name is to read the file at a place. -/
def Reads (c : Context σ) (w : World σ) (name : String) (at_ : Place) : Prop :=
  ∃ file, c.fileRead? name = some file ∧ w.disk.locate (c.filePath file) = .ok at_

/-- To store under the name is to write the file at a place. -/
def Writes (c : Context σ) (w : World σ) (name : String) (at_ : Place) : Prop :=
  ∃ file, referent name = .file file ∧ w.disk.locate (c.filePath file) = .ok at_

theorem Writes.reads {at_ : Place} (h : c.Writes w name at_) : c.Reads w name at_ := by
  obtain ⟨file, named, hlocate⟩ := h
  refine ⟨file, ?_, hlocate⟩
  rw [fileRead?_eq, named]

/-- Two names for two places of which one was written: only the one is read differently. -/
theorem fileText?_elsewhere {at_ : Place} {content : Content} {file : String}
    (hbefore : w.disk.node? at_ ≠ some .directory)
    (hdisk : w'.disk = w.disk.setNode at_ (.file content))
    (hfile : w.disk.locate (c.filePath file) ≠ .ok at_) :
    c.fileText? w' file = c.fileText? w file := by
  unfold fileText?
  rw [hdisk]
  exact Disk.readText_setNode_elsewhere hbefore hfile content

/-- No other name is read differently, unless it stands for the result or the file as well. -/
theorem Storing.frame (h : Storing c w name value c' w') {other : String} (hne : other ≠ name)
    (hresult : ¬ (referent name = .result ∧ referent other = .result))
    (hfile : ∀ at_, c.Writes w name at_ → ¬ c.Reads w other at_) :
    c'.value? w' other = c.value? w other := by
  cases h with
  | fixed named notice =>
    exact value?_congr rfl (fun _ => rfl) (fun _ => rfl) (fun _ => rfl) (fun _ _ => rfl) rfl
  | noStatus named invalid notice =>
    exact value?_congr rfl (fun _ => rfl) (fun _ => rfl) (fun _ => rfl) (fun _ _ => rfl) rfl
  | status named valid =>
    refine value?_congr rfl (fun hstatus => ?_) (fun _ => rfl) (fun _ => rfl) (fun _ _ => rfl) rfl
    have hsame : other = name :=
      (name_of_referent_status hstatus).trans (name_of_referent_status named).symm
    exact absurd hsame hne
  | result named =>
    refine value?_congr rfl (fun _ => rfl) (fun hother => ?_) (fun _ => rfl) (fun _ _ => rfl) rfl
    exact absurd ⟨named, hother⟩ hresult
  | @written file named disk done notice =>
    refine value?_congr rfl (fun _ => rfl) (fun _ => rfl) (fun _ => rfl) (fun f hf => ?_) rfl
    obtain ⟨at_, hlocate, hdirectory, ⟨_, hdisk⟩ | ⟨_, hdisk⟩⟩ := Disk.write_cases done
    · rw [hdisk]
      rfl
    · refine fileText?_elsewhere hdirectory hdisk fun hother => ?_
      exact hfile at_ ⟨file, named, hlocate⟩ ⟨f, hf, hother⟩
  | unwritten named failed notice more =>
    exact value?_congr rfl (fun _ => rfl) (fun _ => rfl) (fun _ => rfl) (fun _ _ => rfl) rfl
  | variable_ named =>
    refine value?_congr rfl (fun _ => rfl) (fun _ => rfl) (fun _ => ?_) (fun _ _ => rfl) rfl
    exact Table.get?_insert_of_ne c.vars value hne

theorem Storing.of_result (h : Storing c w name value c' w') (named : referent name = .result) :
    c' = { c with result := value } ∧ w' = w ∧
      ∀ later, ∀ other ∈ resultNames, c'.value? later other = some value := by
  cases h with
  | result =>
    refine ⟨rfl, rfl, fun later other hother => ?_⟩
    rw [value?_eq, referent_of_result hother]
  | _ => simp_all

/-- A variable has the value that was stored, in every later world. -/
theorem Storing.of_variable (h : Storing c w name value c' w')
    (named : referent name = .variable_) :
    c' = { c with vars := c.vars.insert name value } ∧ w' = w ∧
      ∀ later, c'.value? later name =
        match file? value with
        | some file => c.fileText? later file
        | none => some value := by
  cases h with
  | variable_ =>
    have hget : (c.vars.insert name value).get? name = some value := Table.get?_insert_self ..
    refine ⟨rfl, rfl, fun later => ?_⟩
    rw [value?_eq, named]
    dsimp only
    unfold storedValue?
    rw [hget]
    rfl
  | _ => simp_all

end Playbook.Context
