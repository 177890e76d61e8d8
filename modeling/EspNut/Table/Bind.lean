import EspNut.Table.Encode
import EspNut.Lib.Election

/-!
# Rows bound to a device

Each row of a table whose path the device has is bound to its field. Of the rows that publish one name, the first whose first value converts becomes the active one, whatever the order of the reports; the internal and the command rows stand outside this rule.
-/

namespace EspNut.NutTable

open Lib Rounding

/-- A bound row; `idx` is the first usage with its path and `twinIdx` the same field in the other report type. -/
structure Bound where
  info : HidInfo
  idx : Nat
  twinIdx : Option Nat
  value : String
  has : Bool
  /-- The last value came before the inputs of its conversion. -/
  deferred : Bool
  /-- The variable has to be removed at the next publication. -/
  cleared : Bool
  stringIndex : Nat
  last : ℚ
  seen : Bool
  first : First
  role : Role

def isPublishedRow (info : HidInfo) : Bool := !isInternalRow info && !isCommandRow info

/-! ### The first row wins -/

/-- The inner loop of `resolve` from the first row of a name on. An unread row blocks the later ones, a decided name drops them. -/
def resolveGroup (name : String) : Bool → Bool → List Bound → List Bound
  | _, _, [] => []
  | blocked, decided, b :: rest =>
      if isInternalRow b.info || isCommandRow b.info then b :: resolveGroup name blocked decided rest
      else if b.info.infoType ≠ name then b :: resolveGroup name blocked decided rest
      else if decided || b.first = .fail then
        { b with role := .dead } :: resolveGroup name blocked decided rest
      else if b.first = .unread then
        { b with role := .pending } :: resolveGroup name true decided rest
      else if blocked then
        { b with role := .pending } :: resolveGroup name blocked decided rest
      else
        { b with role := .active } :: resolveGroup name blocked true rest

/-- One round of the outer loop: the group of a published row that no row of the same name precedes. -/
def resolveAt (binds : List Bound) (i : Nat) : List Bound :=
  match binds[i]? with
  | none => binds
  | some b =>
      if isInternalRow b.info || isCommandRow b.info then binds
      else if (binds.take i).any fun e => e.info.infoType = b.info.infoType then binds
      else binds.take i ++ resolveGroup b.info.infoType false false (binds.drop i)

def resolve (binds : List Bound) : List Bound := (List.range binds.length).foldl resolveAt binds

/-! ### Binding -/

def pathListed (path : Option String) (list : List String) : Bool := list.any fun p => path = some p

def isReadUsage (u : HIDUsageDef) : Bool := u.reportType ≠ 0x02

/-- The same path and report in the other report type. -/
def isTwin (u a : HIDUsageDef) : Bool :=
  isReadUsage u && decide (u.reportId = a.reportId) && decide (u.reportType ≠ a.reportType)
    && decide (u.path = a.path) && decide (u.collIndex = a.collIndex)

def bindRow (usages : List HIDUsageDef) (row : HidInfo) : Option Bound :=
  match usages.findIdx? fun u => isReadUsage u && rowMatches u row with
  | none => none
  | some idx =>
      let isAbsent := hasFlag row.hidflags huFlagAbsent
      some
        { info := row
          idx := idx
          twinIdx := usages[idx]?.bind fun a => usages.findIdx? fun u => isTwin u a
          value := if isAbsent then row.dfl.getD "" else ""
          has := isAbsent
          deferred := false
          cleared := false
          stringIndex := 0
          last := 0
          seen := false
          first := if isAbsent then .ok else .unread
          role := if isInternalRow row then .active else .pending }

def bindRows (table : List HidInfo) (usages : List HIDUsageDef) (skip : List String) : List Bound :=
  (table.filter fun row => !pathListed row.hidpath skip).filterMap (bindRow usages)

def bind (table : List HidInfo) (usages : List HIDUsageDef) : List Bound :=
  resolve (bindRows table usages [])

/-! ### Values -/

def Bound.take (b : Bound) (text : String) : Bound :=
  { b with
    value := text
    has := true
    deferred := false
    first := if b.first = .unread then .ok else b.first }

/-- A value that failed to convert; only a first one counts. -/
def Bound.refuse (b : Bound) : Bound :=
  { b with deferred := false, first := if b.first = .unread then .fail else b.first }

/-- The index of the string a `stringId` row waits for. -/
def Bound.noteIndex (b : Bound) (v : ℚ) : Bound :=
  if b.info.conv = .stringId ∧ 1 ≤ v ∧ v ≤ 255 then { b with stringIndex := (trunc v).toNat } else b

/-- The conversion of a published row: the static texts first, then `decode`. -/
def convert (info : HidInfo) (v : ℚ) (ctx : Context) (data : Option UPSData) : Decoded × Context :=
  if info.conv = .lookup ∨ (info.conv = .abmStatus ∧ ctx.abm = abmEnabled) then
    match staticText info v ctx with
    | some text => (.ok text, ctx)
    | none => decode info v ctx data
  else decode info v ctx data

/-- What a published row that is not dead makes of the result of its conversion. -/
def Bound.absorb (b : Bound) : Decoded → Bound
  | .ok text => b.take text
  | .fail => b.refuse
  | .defer => { b with deferred := true }
  | .clear => { b with cleared := true, has := false, deferred := true }

/-- The roles are computed again unless the row has to wait. -/
def settle (binds : List Bound) : Decoded → List Bound
  | .ok _ | .fail => resolve binds
  | .defer | .clear => binds

/-- The context after a value of an internal row. -/
def applyRow (info : HidInfo) (v : ℚ) (ctx : Context) (data : Option UPSData) : Context :=
  if info.infoType = "BOOL" then
    { ctx with status := applyStatusToken ctx.status (statusToken info v ctx data) }
  else if isAlarmRow info then ctx
  else applyInternal info v ctx

/-- A value read for the row at an index. -/
def onValue (binds : List Bound) (i : Nat) (v : ℚ) (ctx : Context) (data : Option UPSData) :
    List Bound × Context :=
  match binds[i]? with
  | none => (binds, ctx)
  | some b =>
      if hasFlag b.info.hidflags huFlagAbsent then (binds, ctx)
      else if isCommandRow b.info then (binds, ctx)
      else if isInternalRow b.info then
        (binds.set i { b with last := v, seen := true }, applyRow b.info v ctx data)
      else if b.role = .dead then (binds, ctx)
      else
        let (result, ctx) := convert b.info v ctx data
        (settle (binds.set i ((b.noteIndex v).absorb result)) result, ctx)

def Bound.converts (b : Bound) : Bool :=
  !hasFlag b.info.hidflags huFlagAbsent && isPublishedRow b.info && decide (b.role ≠ .dead)

theorem onValue_of_converts {binds : List Bound} {i : Nat} {b : Bound} (hb : binds[i]? = some b)
    (h : b.converts = true) (v : ℚ) (ctx : Context) (data : Option UPSData) :
    onValue binds i v ctx data
      = (settle (binds.set i ((b.noteIndex v).absorb (convert b.info v ctx data).1))
          (convert b.info v ctx data).1, (convert b.info v ctx data).2) := by
  unfold Bound.converts isPublishedRow at h
  simp only [Bool.and_eq_true, Bool.not_eq_true', decide_eq_true_eq] at h
  obtain ⟨⟨habsent, hinternal, hcommand⟩, hrole⟩ := h
  unfold onValue
  simp [hb, habsent, hinternal, hcommand, hrole]

/-- Any other row at most remembers the value. -/
theorem onValue_of_not_converts {binds : List Bound} {i : Nat} {b : Bound} (hb : binds[i]? = some b)
    (h : b.converts = false) (v : ℚ) (ctx : Context) (data : Option UPSData) :
    onValue binds i v ctx data = (binds, ctx)
      ∨ isInternalRow b.info = true
        ∧ onValue binds i v ctx data
          = (binds.set i { b with last := v, seen := true }, applyRow b.info v ctx data) := by
  unfold onValue
  simp only [hb]
  split
  · exact Or.inl rfl
  split
  · exact Or.inl rfl
  split
  · rename_i hinternal
    exact Or.inr ⟨hinternal, rfl⟩
  split
  · exact Or.inl rfl
  · exfalso
    unfold Bound.converts isPublishedRow at h
    simp_all

/-- The last value of every internal row, in table order, as one walk over all reports. -/
def walkInternalRows (binds : List Bound) (ctx : Context) (data : Option UPSData) : Context :=
  binds.foldl (fun ctx b =>
    if !b.seen || !isInternalRow b.info || isAlarmRow b.info then ctx
    else applyRow b.info b.last ctx data) ctx

def vendorAlarms (binds : List Bound) : String :=
  (binds.filterMap fun b =>
    if b.seen && isAlarmRow b.info then lookupText b.info.lkp b.last else none).foldl
      Text.appendWord ""

def onString (binds : List Bound) (i : Nat) (text : String) : List Bound :=
  match binds[i]? with
  | none => binds
  | some b => if b.role = .dead then binds else resolve (binds.set i (b.take text))

/-- The end of the first full poll: rows never read count as failed, deferred ones still wait. -/
def finishRow (b : Bound) : Bound :=
  if isInternalRow b.info || isCommandRow b.info then b
  else if b.first = .unread && !b.deferred then { b with first := .fail }
  else b

def finishInit (binds : List Bound) : List Bound :=
  let changed := binds.any fun b =>
    isPublishedRow b.info && decide (b.first = .unread) && !b.deferred
  if changed then resolve (binds.map finishRow) else binds.map finishRow

end EspNut.NutTable
