import EspNut.Hid.Usages
import EspNut.Lib.Bits

/-!
# The read behind the diagnostics export

When the user asks for an export, every FEATURE report that no poll has cached is read once, one request a step. The list is drawn up at the start, without the reports the driver must never request.
-/

namespace EspNut

open Lib

inductive DiagReadState where
  | idle | reading | done | interrupted
  deriving DecidableEq

/-- How the request of a report ended. -/
inductive DiagResult where
  | read | empty | failed
  deriving DecidableEq

/-- A report that answered, with its bytes or empty. -/
structure DiagEntry where
  reportType : Nat
  id : Nat
  empty : Bool
  data : List Byte

/-- The type and the id of the reports to read, and what came of those before `pos`. -/
structure DiagSweep where
  items : List (Nat × Nat)
  results : List DiagEntry
  pos : Nat
  read : Nat
  empty : Nat
  failed : Nat
  state : DiagReadState

namespace DiagSweep

/-- Type of a FEATURE report. -/
def feature : Nat := 3

def clear : DiagSweep :=
  { items := []
    results := []
    pos := 0
    read := 0
    empty := 0
    failed := 0
    state := .idle }

/-- A FEATURE report joins the list once, unless it is cached or refused. -/
def push (cachedKeys : List (Nat × Nat)) (accept : Nat → Nat → Bool) (items : List (Nat × Nat)) (u : HIDUsageDef) :
    List (Nat × Nat) :=
  if u.reportType ≠ feature then items
  else if cachedKeys.any (fun key => key = (u.reportType, u.reportId)) then items
  else if items.any (fun item => item.2 = u.reportId) then items
  else if accept u.reportType u.reportId = false then items
  else items ++ [(u.reportType, u.reportId)]

/-- A new read; an empty list ends it at once. -/
def start (usages : List HIDUsageDef) (cachedKeys : List (Nat × Nat)) (accept : Nat → Nat → Bool) : DiagSweep :=
  let items := usages.foldl (push cachedKeys accept) []
  { clear with items, state := if items = [] then .done else .reading }

/-- The report to request next, while the read is running. -/
def next (d : DiagSweep) : Option (Nat × Nat) :=
  if d.state ≠ .reading then none else d.items[d.pos]?

/-- The result of the report `next` gave; any other is ignored. -/
def record (id : Nat) (result : DiagResult) (data : List Byte) (d : DiagSweep) : DiagSweep :=
  match d.next with
  | none => d
  | some item =>
      if item.2 ≠ id then d
      else
        let result := if result = .read ∧ data = [] then .empty else result
        let d : DiagSweep := match result with
          | .read => { d with read := d.read + 1, results := d.results ++ [⟨item.1, item.2, false, data⟩] }
          | .empty => { d with empty := d.empty + 1, results := d.results ++ [⟨item.1, item.2, true, []⟩] }
          | .failed => { d with failed := d.failed + 1 }
        { d with pos := d.pos + 1, state := if d.items.length ≤ d.pos + 1 then .done else d.state }

def interrupt (d : DiagSweep) : DiagSweep :=
  if d.state = .reading then { d with state := .interrupted } else d

/-- Every report of the list is a FEATURE report that was accepted at the start. -/
def Filtered (accept : Nat → Nat → Bool) (d : DiagSweep) : Prop :=
  ∀ item ∈ d.items, item.1 = feature ∧ accept item.1 item.2 = true

variable {accept : Nat → Nat → Bool} {d : DiagSweep}

theorem filtered_clear (accept : Nat → Nat → Bool) : Filtered accept clear := by simp [Filtered, clear]

theorem push_spec {cachedKeys : List (Nat × Nat)} {items : List (Nat × Nat)} {u : HIDUsageDef} {item : Nat × Nat}
    (h : item ∈ push cachedKeys accept items u) :
    item ∈ items ∨ (item.1 = feature ∧ accept item.1 item.2 = true) := by
  unfold push at h
  split at h
  · exact Or.inl h
  rename_i hfeature
  split at h
  · exact Or.inl h
  split at h
  · exact Or.inl h
  split at h
  · exact Or.inl h
  rename_i haccepted
  rcases List.mem_append.mp h with hbefore | hpushed
  · exact Or.inl hbefore
  · rw [List.mem_singleton.mp hpushed]
    exact Or.inr ⟨not_not.mp hfeature, by simpa using haccepted⟩

theorem filtered_start (usages : List HIDUsageDef) (cachedKeys : List (Nat × Nat)) (accept : Nat → Nat → Bool) :
    Filtered accept (start usages cachedKeys accept) := by
  have hpushed : ∀ items : List (Nat × Nat), (∀ item ∈ items, item.1 = feature ∧ accept item.1 item.2 = true) →
      ∀ item ∈ usages.foldl (push cachedKeys accept) items, item.1 = feature ∧ accept item.1 item.2 = true := by
    induction usages with
    | nil => exact fun items hitems item hitem => hitems item hitem
    | cons u rest ih =>
        intro items hitems
        apply ih
        intro item hitem
        rcases push_spec hitem with hbefore | hnew
        · exact hitems item hbefore
        · exact hnew
  exact hpushed [] (by simp)

theorem Filtered.next (h : Filtered accept d) {item : Nat × Nat} (hnext : d.next = some item) :
    item.1 = feature ∧ accept item.1 item.2 = true := by
  unfold DiagSweep.next at hnext
  split at hnext
  · exact absurd hnext (by simp)
  · exact h item (List.mem_of_getElem? hnext)

theorem items_record (id : Nat) (result : DiagResult) (data : List Byte) (d : DiagSweep) :
    (record id result data d).items = d.items := by
  unfold record
  split
  · rfl
  · split
    · rfl
    · dsimp only
      split <;> rfl

theorem Filtered.record (h : Filtered accept d) (id : Nat) (result : DiagResult) (data : List Byte) :
    Filtered accept (d.record id result data) := by
  unfold Filtered
  rw [items_record]
  exact h

theorem Filtered.interrupt (h : Filtered accept d) : Filtered accept d.interrupt := by
  unfold DiagSweep.interrupt
  split
  · exact h
  · exact h

end DiagSweep

end EspNut
