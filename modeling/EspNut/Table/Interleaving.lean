import EspNut.Table.Accumulate
import EspNut.Table.FirstRow

/-!
# Reports in any order

After each report the last value of every internal row is applied again, in table order, so that rows of different reports do not undo each other. A token given by this walk does not depend on the order of the reports, unless its row reads the battery monitoring, its path or the OFF bit before the walk has set them. A bit for which no last value has a token keeps what earlier values left.
-/

namespace EspNut.NutTable

open Lib Rounding

/-- A value for the row at an index, with the data published until then. -/
structure Reading where
  row : Nat
  value : ℚ
  data : Option UPSData

/-- A report: the values of its rows, and the data the walk behind them sees. -/
structure Delivery where
  readings : List Reading
  data : Option UPSData

def Session.read (s : Session) (r : Reading) : Session := s.step (.value r.row r.value r.data)

def Session.walk (s : Session) (data : Option UPSData) : Session :=
  { s with ctx := walkInternalRows s.binds s.ctx data }

def Session.deliver (s : Session) (d : Delivery) : Session := (run Session.read s d.readings).walk d.data

def received (deliveries : List Delivery) (row : Nat) : List ℚ :=
  ((deliveries.flatMap Delivery.readings).filter fun r => decide (r.row = row)).map Reading.value

/-- Every internal row receives the same values in the same order, whatever comes between them. -/
def SameValues (binds : List Bound) (first second : List Delivery) : Prop :=
  ∀ i b, binds[i]? = some b → isInternalRow b.info = true → received first i = received second i

/-! ### What the rows remember -/

/-- The internal rows whose values are read. -/
def listens (info : HidInfo) : Bool :=
  !hasFlag info.hidflags huFlagAbsent && !isCommandRow info && isInternalRow info

/-- The last value of a row. -/
structure Memory where
  info : HidInfo
  seen : Bool
  last : ℚ

def Bound.memory (b : Bound) : Memory := ⟨b.info, b.seen, b.last⟩

def memories (binds : List Bound) : List Memory := binds.map Bound.memory

def Memory.note (m : Memory) (v : ℚ) : Memory := ⟨m.info, true, v⟩

def remember (ms : List Memory) (r : Reading) : List Memory :=
  match ms[r.row]? with
  | none => ms
  | some m => if listens m.info then ms.set r.row (m.note r.value) else ms

theorem getElem?_memories (binds : List Bound) (i : Nat) :
    (memories binds)[i]? = binds[i]?.map Bound.memory := List.getElem?_map ..

@[simp] theorem memory_absorb (b : Bound) (d : Decoded) : (b.absorb d).memory = b.memory := by cases d <;> rfl

@[simp] theorem memory_noteIndex (b : Bound) (v : ℚ) : (b.noteIndex v).memory = b.memory := by
  unfold Bound.noteIndex
  split <;> rfl

theorem memories_resolve (binds : List Bound) : memories (resolve binds) = memories binds := by
  apply List.ext_getElem?
  intro k
  rw [getElem?_memories, getElem?_memories, getElem?_resolve, Option.map_map]
  apply Option.map_congr
  intro b _
  show (ite _ _ _ : Bound).memory = b.memory
  split <;> rfl

theorem memories_settle (binds : List Bound) (d : Decoded) : memories (settle binds d) = memories binds := by
  cases d with
  | ok text => exact memories_resolve binds
  | fail => exact memories_resolve binds
  | defer => rfl
  | clear => rfl

theorem memories_set {binds : List Bound} {i : Nat} {b : Bound} :
    memories (binds.set i b) = (memories binds).set i b.memory := List.map_set

theorem memories_set_same {binds : List Bound} {i : Nat} {b b' : Bound} (hb : binds[i]? = some b)
    (hsame : b'.memory = b.memory) : memories (binds.set i b') = memories binds := by
  have hi : (memories binds)[i]? = some b'.memory := by
    rw [getElem?_memories, hb, hsame]
    rfl
  obtain ⟨hlt, hget⟩ := List.getElem?_eq_some_iff.mp hi
  rw [memories_set, ← hget, List.set_getElem_self]

/-! ### One value -/

theorem onValue_of_listens {binds : List Bound} {i : Nat} {b : Bound} (hb : binds[i]? = some b)
    (h : listens b.info = true) (v : ℚ) (ctx : Context) (data : Option UPSData) :
    onValue binds i v ctx data
      = (binds.set i { b with last := v, seen := true }, applyRow b.info v ctx data) := by
  unfold listens at h
  simp only [Bool.and_eq_true, Bool.not_eq_true'] at h
  obtain ⟨⟨habsent, hcommand⟩, hinternal⟩ := h
  unfold onValue
  simp [hb, habsent, hcommand, hinternal]

/-- A row that does not listen leaves everything alone the status depends on. -/
theorem onValue_of_deaf {binds : List Bound} {i : Nat} (h : ∀ b, binds[i]? = some b → listens b.info = false) (v : ℚ)
    (ctx : Context) (data : Option UPSData) :
    memories (onValue binds i v ctx data).1 = memories binds
      ∧ (onValue binds i v ctx data).2.shared = ctx.shared := by
  cases hb : binds[i]? with
  | none =>
      unfold onValue
      rw [hb]
      exact ⟨rfl, rfl⟩
  | some b =>
      cases hconverts : b.converts with
      | true =>
          rw [onValue_of_converts hb hconverts, memories_settle]
          exact ⟨memories_set_same hb (by simp), shared_convert b.info v ctx data⟩
      | false =>
          have hdeaf := h b hb
          unfold listens at hdeaf
          unfold Bound.converts isPublishedRow at hconverts
          unfold onValue
          rw [hb]
          dsimp only
          split
          · exact ⟨rfl, rfl⟩
          split
          · exact ⟨rfl, rfl⟩
          split
          · simp_all
          split
          · exact ⟨rfl, rfl⟩
          · simp_all

theorem memories_read (s : Session) (r : Reading) : memories (s.read r).binds = remember (memories s.binds) r := by
  show memories (onValue s.binds r.row r.value s.ctx r.data).1 = _
  unfold remember
  rw [getElem?_memories]
  cases hb : s.binds[r.row]? with
  | none => exact (onValue_of_deaf (by simp [hb]) r.value s.ctx r.data).1
  | some b =>
      show _ = if listens b.info = true then _ else _
      split
      · rename_i hlistens
        rw [onValue_of_listens hb hlistens, memories_set]
        rfl
      · rename_i hdeaf
        apply (onValue_of_deaf ?_ r.value s.ctx r.data).1
        intro b' hb'
        obtain rfl : b = b' := Option.some.inj (hb.symm.trans hb')
        exact Bool.eq_false_iff.mpr hdeaf

theorem memories_deliveries (s : Session) (deliveries : List Delivery) :
    memories (run Session.deliver s deliveries).binds
      = run remember (memories s.binds) (deliveries.flatMap Delivery.readings) := by
  have hreadings : ∀ (rs : List Reading) (s : Session),
      memories (run Session.read s rs).binds = run remember (memories s.binds) rs := by
    intro rs
    induction rs with
    | nil => exact fun _ => rfl
    | cons r rs ih =>
        intro s
        rw [run_cons, run_cons, ih, memories_read]
  induction deliveries generalizing s with
  | nil => rfl
  | cons d deliveries ih =>
      rw [run_cons, ih, List.flatMap_cons, run_append]
      exact congrArg (run remember · _) (hreadings d.readings s)

theorem getElem?_remember (ms : List Memory) (r : Reading) (k : Nat) :
    (remember ms r)[k]? = ms[k]?.map fun m => if r.row = k ∧ listens m.info = true then m.note r.value else m := by
  unfold remember
  by_cases hk : r.row = k
  · subst hk
    cases hm : ms[r.row]? with
    | none => simp [hm]
    | some m =>
        dsimp only
        obtain ⟨hlt, -⟩ := List.getElem?_eq_some_iff.mp hm
        split
        · rename_i hlistens
          rw [List.getElem?_set_self hlt]
          simp [hlistens]
        · rename_i hdeaf
          rw [hm]
          simp [hdeaf]
  · simp only [hk, false_and, if_false, Option.map_id']
    cases hm : ms[r.row]? with
    | none => rfl
    | some m =>
        dsimp only
        split
        · exact List.getElem?_set_ne hk
        · rfl

theorem getElem?_run_remember (rs : List Reading) (ms : List Memory) (k : Nat) :
    (run remember ms rs)[k]?
      = ms[k]?.map fun m =>
          if listens m.info then run Memory.note m ((rs.filter fun r => decide (r.row = k)).map Reading.value)
          else m := by
  induction rs generalizing ms with
  | nil => simp
  | cons r rs ih =>
      rw [run_cons, ih, getElem?_remember, Option.map_map]
      apply Option.map_congr
      intro m _
      by_cases hlistens : listens m.info = true
      · by_cases hk : r.row = k
        · rw [List.filter_cons_of_pos (by simpa using hk)]
          simp only [Function.comp, hk, hlistens, and_self, if_true, List.map_cons, run_cons]
          exact if_pos hlistens
        · rw [List.filter_cons_of_neg (by simpa using hk)]
          simp only [Function.comp, hk, hlistens, false_and, if_false, if_true]
      · simp only [Function.comp, hlistens, Bool.false_eq_true, and_false, if_false]

theorem memories_same {binds : List Bound} {first second : List Delivery} (hsame : SameValues binds first second)
    (ctx : Context) :
    memories (run Session.deliver ⟨binds, ctx⟩ first).binds
      = memories (run Session.deliver ⟨binds, ctx⟩ second).binds := by
  rw [memories_deliveries, memories_deliveries]
  apply List.ext_getElem?
  intro k
  rw [getElem?_run_remember, getElem?_run_remember]
  apply Option.map_congr
  intro m hm
  rw [getElem?_memories] at hm
  obtain ⟨b, hb, rfl⟩ := Option.map_eq_some_iff.mp hm
  have hinfo : b.memory.info = b.info := rfl
  rw [hinfo]
  by_cases hlistens : listens b.info = true
  · have hinternal : isInternalRow b.info = true := by
      unfold listens at hlistens
      simp_all
    have hvalues := hsame k b hb hinternal
    unfold received at hvalues
    rw [hvalues]
  · rw [if_neg hlistens, if_neg hlistens]

/-! ### The walk -/

/-- The last value of a row the walk applies again. -/
def Memory.walked (m : Memory) : Option (HidInfo × ℚ) :=
  if m.seen && isInternalRow m.info && !isAlarmRow m.info then some (m.info, m.last) else none

def lastValues (binds : List Bound) : List (HidInfo × ℚ) := (memories binds).filterMap Memory.walked

/-- One row of the walk. -/
def applyLast (data : Option UPSData) (ctx : Context) (r : HidInfo × ℚ) : Context := applyRow r.1 r.2 ctx data

theorem walkInternalRows_eq (binds : List Bound) (ctx : Context) (data : Option UPSData) :
    walkInternalRows binds ctx data = run (applyLast data) ctx (lastValues binds) := by
  unfold walkInternalRows
  induction binds generalizing ctx with
  | nil => rfl
  | cons b binds ih =>
      rw [List.foldl_cons, ih]
      show run (applyLast data) _ _ = run (applyLast data) ctx ((b.memory :: memories binds).filterMap Memory.walked)
      cases hwalked : b.seen && isInternalRow b.info && !isAlarmRow b.info with
      | true =>
          have hlast : b.memory.walked = some (b.info, b.last) := if_pos hwalked
          simp only [Bool.and_eq_true, Bool.not_eq_true'] at hwalked
          obtain ⟨⟨hseen, hinternal⟩, halarm⟩ := hwalked
          rw [List.filterMap_cons_some hlast, run_cons, hseen, hinternal, halarm]
          rfl
      | false =>
          have hnone : b.memory.walked = none := if_neg (Bool.eq_false_iff.mp hwalked)
          rw [List.filterMap_cons_none hnone, if_pos]
          · rfl
          · simp only [Bool.and_eq_false_iff, Bool.not_eq_false'] at hwalked
            simp only [Bool.or_eq_true, Bool.not_eq_true']
            exact hwalked

/-- The row sets the state of the battery monitoring. -/
def isAbmRow (info : HidInfo) : Bool :=
  !isStatusRow info && !isAlarmRow info && decide (info.conv = .abmEnabled)

/-- The path a row of the battery monitoring stands for. -/
def pathOf (info : HidInfo) : Option Int :=
  if isStatusRow info || isAlarmRow info then none
  else if info.conv = .abmPathMode then some abmPathMode
  else if info.conv = .abmPathStatus then some abmPathStatus
  else none

def abmOf (v : ℚ) : Int := if toLong v = abmDisabled ∨ toLong v = abmEnabled then toLong v else abmUnknown

/-- The path after a row that stands for one: the first one stays while the monitoring is enabled. -/
def pathAfter (abm path own : Int) : Int :=
  if abm ≠ abmEnabled then abmPathUnknown else if path = abmPathUnknown then own else path

theorem applyRow_of_status {info : HidInfo} (h : isStatusRow info = true) (v : ℚ) (ctx : Context)
    (data : Option UPSData) :
    applyRow info v ctx data = { ctx with status := applyStatusToken ctx.status (statusToken info v ctx data) } :=
  if_pos (of_decide_eq_true h)

theorem applyRow_of_state {info : HidInfo} (hstatus : isStatusRow info = false) (halarm : isAlarmRow info = false)
    (v : ℚ) (ctx : Context) (data : Option UPSData) : applyRow info v ctx data = applyInternal info v ctx := by
  unfold applyRow
  rw [if_neg (of_decide_eq_false hstatus), if_neg (by simp [halarm])]

theorem applyRow_of_alarm {info : HidInfo} (hstatus : isStatusRow info = false) (halarm : isAlarmRow info = true)
    (v : ℚ) (ctx : Context) (data : Option UPSData) : applyRow info v ctx data = ctx := by
  unfold applyRow
  rw [if_neg (of_decide_eq_false hstatus), if_pos halarm]

theorem abm_applyRow (info : HidInfo) (v : ℚ) (ctx : Context) (data : Option UPSData) :
    (applyRow info v ctx data).abm = if isAbmRow info then abmOf v else ctx.abm := by
  unfold isAbmRow
  cases hstatus : isStatusRow info with
  | true =>
      rw [applyRow_of_status hstatus]
      rfl
  | false =>
      cases halarm : isAlarmRow info with
      | true =>
          rw [applyRow_of_alarm hstatus halarm]
          rfl
      | false =>
          rw [applyRow_of_state hstatus halarm]
          unfold applyInternal
          cases info.conv
          case abmPathMode | abmPathStatus =>
            dsimp only
            split
            · rfl
            · split <;> rfl
          all_goals rfl

theorem abmPath_applyRow (info : HidInfo) (v : ℚ) (ctx : Context) (data : Option UPSData) :
    (applyRow info v ctx data).abmPath = (pathOf info).elim ctx.abmPath (pathAfter ctx.abm ctx.abmPath) := by
  unfold pathOf
  cases hstatus : isStatusRow info with
  | true =>
      rw [applyRow_of_status hstatus]
      rfl
  | false =>
      cases halarm : isAlarmRow info with
      | true =>
          rw [applyRow_of_alarm hstatus halarm]
          rfl
      | false =>
          rw [applyRow_of_state hstatus halarm]
          unfold applyInternal
          cases info.conv
          case abmPathMode | abmPathStatus =>
            dsimp only
            unfold pathAfter
            by_cases habm : ctx.abm = abmEnabled
            · by_cases hpath : ctx.abmPath = abmPathUnknown <;> simp [habm, hpath]
            · simp [habm]
          all_goals rfl

/-! ### What the last values decide -/

/-- What a walk has decided so far, whatever the context was before it. -/
structure Forecast where
  abm : Option Int
  abmPath : Option Int
  bit : Nat → Option Bool

/-- The values of the rows that set the state of the battery monitoring. -/
def abmValues (values : List (HidInfo × ℚ)) : List ℚ :=
  values.filterMap fun r => if isAbmRow r.1 then some r.2 else none

/-- Before the walk: the battery monitoring when at most one row sets it, its path when no row stands for one. -/
def Forecast.before (values : List (HidInfo × ℚ)) : Forecast :=
  { abm :=
      if abmValues values = [] then some abmUnknown
      else if (abmValues values).length = 1 then (abmValues values).head?.map abmOf
      else none
    abmPath := if values.all fun r => (pathOf r.1).isNone then some abmPathUnknown else none
    bit := fun _ => none }

/-- The row reads nothing of the context that is not decided. -/
def Forecast.certain (k : Forecast) (info : HidInfo) : Bool :=
  match info.conv with
  | .eatonDischarging | .eatonCharging => k.abm.isSome
  | .abmChrgDischrg => k.abm.any fun abm => decide (abm ≠ abmEnabled) || k.abmPath.isSome
  | .eatonConverterOnline => (k.bit stOff).isSome
  | _ => true

/-- A context with what is decided. -/
def Forecast.sample (k : Forecast) : Context :=
  { Context.initial with
    abm := k.abm.getD abmUnknown
    abmPath := k.abmPath.getD abmPathUnknown
    status := if k.bit stOff = some true then ⟨statusBit stOff, statusBit stOff⟩ else StatusBits.empty }

def contextTokens : List String := ["dischrg", "!dischrg", "chrg", "!chrg", "online", "!online"]

/-- The bits these tokens set or clear. -/
def contextBits : List Nat := [stOnline, stOffline, 2, 3]

/-- The path after a row of the path `own`: while nothing is decided, it is that path if the rows stand for no other. -/
def Forecast.pathAfter (k : Forecast) (values : List (HidInfo × ℚ)) (own : Int) : Option Int :=
  k.abm.bind fun abm =>
    if abm ≠ abmEnabled then some abmPathUnknown
    else match k.abmPath with
      | some path => some (NutTable.pathAfter abm path own)
      | none => if values.all fun r => (pathOf r.1).all (· = own) then some own else none

/-- One row of the walk over the given values. -/
def Forecast.row (values : List (HidInfo × ℚ)) (data : Option UPSData) (k : Forecast) (r : HidInfo × ℚ) : Forecast :=
  if isStatusRow r.1 then
    { k with bit := fun b =>
        if k.certain r.1 then (tokenEffect (statusToken r.1 r.2 k.sample data) b).or (k.bit b)
        else if b ∈ contextBits then none
        else k.bit b }
  else
    { k with
      abm := if isAbmRow r.1 then some (abmOf r.2) else k.abm
      abmPath := (pathOf r.1).elim k.abmPath (k.pathAfter values) }

/-- What the walk over the given values decides in the end. -/
def forecast (values : List (HidInfo × ℚ)) (data : Option UPSData) : Forecast :=
  run (Forecast.row values data) (Forecast.before values) values

/-- The context has everything that is decided. -/
structure Forecast.Holds (k : Forecast) (ctx : Context) : Prop where
  abm : ∀ abm, k.abm = some abm → ctx.abm = abm
  abmPath : ∀ path, k.abmPath = some path → ctx.abmPath = path
  bit : ∀ b < 32, ∀ value, k.bit b = some value → ctx.status.isSet b = value ∧ ctx.status.isKnown b = true

theorem isSet_sample {k : Forecast} {off : Bool} (hoff : k.bit stOff = some off) : k.sample.status.isSet stOff = off := by
  show StatusBits.isSet (if k.bit stOff = some true then _ else _) stOff = off
  rw [hoff]
  cases off <;> decide

/-- A row that is certain gives one token in every such context. -/
theorem statusToken_of_certain {k : Forecast} {ctx : Context} (h : k.Holds ctx) {info : HidInfo}
    (hcertain : k.certain info = true) {data data' : Option UPSData}
    (hfull : info.conv = .eatonCharging → chargeIsFull data' = chargeIsFull data) (v : ℚ) :
    statusToken info v ctx data' = statusToken info v k.sample data := by
  have habm : k.abm.isSome = true → ctx.abm = k.sample.abm := by
    intro hsome
    obtain ⟨abm, hdecided⟩ := Option.isSome_iff_exists.mp hsome
    unfold Forecast.sample
    rw [h.abm abm hdecided, hdecided]
    rfl
  unfold Forecast.certain at hcertain
  unfold statusToken
  cases hconv : info.conv
  case eatonDischarging =>
    rw [hconv] at hcertain
    rw [habm hcertain]
  case eatonCharging =>
    rw [hconv] at hcertain
    rw [habm hcertain, hfull hconv]
  case abmChrgDischrg =>
    rw [hconv] at hcertain
    obtain ⟨abm, hdecided, hreads⟩ := (Option.any_eq_true ..).mp hcertain
    have hsame := habm (by rw [hdecided]; rfl)
    show abmChrgDischrgToken _ _ = abmChrgDischrgToken _ _
    unfold abmChrgDischrgToken
    rw [hsame]
    split
    · rfl
    · rename_i henabled
      have habmIs : k.sample.abm = abm := by
        unfold Forecast.sample
        rw [hdecided]
        rfl
      rw [Bool.or_eq_true, decide_eq_true_eq] at hreads
      have hpath : ctx.abmPath = k.sample.abmPath := by
        rcases hreads with hdisabled | hsome
        · exact absurd (habmIs ▸ henabled) (by simpa using hdisabled)
        · obtain ⟨path, hdecidedPath⟩ := Option.isSome_iff_exists.mp hsome
          unfold Forecast.sample
          rw [h.abmPath path hdecidedPath, hdecidedPath]
          rfl
      rw [hpath]
  case eatonConverterOnline =>
    rw [hconv] at hcertain
    obtain ⟨off, hoff⟩ := Option.isSome_iff_exists.mp hcertain
    rw [(h.bit stOff (by decide) off hoff).1, isSet_sample hoff]
  all_goals rfl

theorem tokenEffect_contextTokens :
    ∀ token ∈ contextTokens, ∀ b < 32, b ∉ contextBits → tokenEffect (some token) b = none := by
  decide +kernel

/-- A row that is not certain leaves the other bits alone. -/
theorem tokenEffect_of_not_certain {k : Forecast} {info : HidInfo} (h : k.certain info = false) (v : ℚ) (ctx : Context)
    (data : Option UPSData) {b : Nat} (hb : b < 32) (hother : b ∉ contextBits) :
    tokenEffect (statusToken info v ctx data) b = none := by
  have htokens : ∀ token ∈ statusToken info v ctx data, token ∈ contextTokens := by
    intro token htoken
    unfold Forecast.certain at h
    unfold statusToken tokenIf abmChrgDischrgToken at htoken
    cases hconv : info.conv
    case eatonDischarging | eatonCharging | abmChrgDischrg | eatonConverterOnline =>
      rw [hconv] at htoken
      dsimp only at htoken
      repeat' split at htoken
      all_goals
        cases htoken <;> decide
    all_goals
      rw [hconv] at h
      exact absurd h (by simp)
  cases htoken : statusToken info v ctx data with
  | none => rfl
  | some token => exact tokenEffect_contextTokens token (htokens token htoken) b hb hother

/-- The row's token depends on the context. -/
def readsContext (info : HidInfo) : Bool :=
  decide (info.conv = .eatonDischarging) || decide (info.conv = .eatonCharging)
    || decide (info.conv = .abmChrgDischrg) || decide (info.conv = .eatonConverterOnline)

theorem certain_of_plain {info : HidInfo} (h : readsContext info = false) (k : Forecast) : k.certain info = true := by
  unfold Forecast.certain
  unfold readsContext at h
  cases hconv : info.conv
  case eatonDischarging | eatonCharging | abmChrgDischrg | eatonConverterOnline =>
    rw [hconv] at h
    exact absurd h (by decide)
  all_goals rfl

theorem statusToken_of_plain {info : HidInfo} (h : readsContext info = false) (v : ℚ) (ctx ctx' : Context)
    (data data' : Option UPSData) : statusToken info v ctx data = statusToken info v ctx' data' := by
  unfold statusToken
  unfold readsContext at h
  cases hconv : info.conv
  case eatonDischarging | eatonCharging | abmChrgDischrg | eatonConverterOnline =>
    rw [hconv] at h
    exact absurd h (by decide)
  all_goals rfl

/-- Where no row reads the context, the last values leave open only the bits they have no token for. -/
theorem forecast_open_iff {values : List (HidInfo × ℚ)} (data : Option UPSData)
    (hplain : ∀ r ∈ values, isStatusRow r.1 = true → readsContext r.1 = false) (b : Nat) :
    (forecast values data).bit b = none
      ↔ ∀ r ∈ values, isStatusRow r.1 = true →
          tokenEffect (statusToken r.1 r.2 Context.initial data) b = none := by
  have hrows : ∀ rows : List (HidInfo × ℚ), (∀ r ∈ rows, isStatusRow r.1 = true → readsContext r.1 = false) →
      ∀ k : Forecast, (run (Forecast.row values data) k rows).bit b = none
        ↔ k.bit b = none ∧ ∀ r ∈ rows, isStatusRow r.1 = true →
            tokenEffect (statusToken r.1 r.2 Context.initial data) b = none := by
    intro rows
    induction rows with
    | nil => simp
    | cons r rows ih =>
        intro hrows k
        rw [run_cons, ih fun r hr => hrows r (List.mem_cons_of_mem _ hr), List.forall_mem_cons, ← and_assoc]
        apply and_congr_left'
        unfold Forecast.row
        cases hstatus : isStatusRow r.1 with
        | false => simp
        | true =>
            have hrow := hrows r (List.mem_cons_self ..) hstatus
            rw [if_pos rfl]
            dsimp only
            rw [certain_of_plain hrow, if_pos rfl, Option.or_eq_none_iff,
              statusToken_of_plain hrow r.2 k.sample Context.initial data data]
            exact ⟨fun h => ⟨h.2, fun _ => h.1⟩, fun h => ⟨h.2 rfl, h.1⟩⟩
  rw [forecast, hrows values hplain]
  exact and_iff_right rfl

/-! ### The walk keeps to the forecast -/

/-- The path is that of a row among the values, or none yet. -/
def PathOfRow (values : List (HidInfo × ℚ)) (ctx : Context) : Prop :=
  ctx.abmPath = abmPathUnknown ∨ ∃ r ∈ values, pathOf r.1 = some ctx.abmPath

variable {values : List (HidInfo × ℚ)} {data data' : Option UPSData}

theorem PathOfRow.row {ctx : Context} (h : PathOfRow values ctx) {r : HidInfo × ℚ} (hr : r ∈ values) :
    PathOfRow values (applyLast data ctx r) := by
  unfold PathOfRow applyLast
  rw [abmPath_applyRow]
  cases hpath : pathOf r.1 with
  | none => exact h
  | some own =>
      show pathAfter ctx.abm ctx.abmPath own = _ ∨ ∃ _, _ ∧ _ = some (pathAfter ctx.abm ctx.abmPath own)
      unfold pathAfter
      split
      · exact Or.inl rfl
      split
      · exact Or.inr ⟨r, hr, hpath⟩
      · exact h

theorem Forecast.Holds.pathAfter {k : Forecast} {ctx : Context} (h : k.Holds ctx) (hpath : PathOfRow values ctx)
    {own path : Int} (hafter : k.pathAfter values own = some path) :
    NutTable.pathAfter ctx.abm ctx.abmPath own = path := by
  unfold Forecast.pathAfter at hafter
  obtain ⟨abm, habm, hafter⟩ := Option.bind_eq_some_iff.mp hafter
  rw [h.abm abm habm]
  split at hafter
  · rename_i hdisabled
    unfold NutTable.pathAfter
    rw [if_pos hdisabled]
    exact Option.some.inj hafter
  · rename_i henabled
    cases hdecided : k.abmPath with
    | some old =>
        rw [hdecided] at hafter
        rw [h.abmPath old hdecided]
        exact Option.some.inj hafter
    | none =>
        rw [hdecided] at hafter
        dsimp only at hafter
        split at hafter
        · rename_i hall
          obtain rfl : own = path := Option.some.inj hafter
          unfold NutTable.pathAfter
          rw [if_neg henabled]
          split
          · rfl
          · rename_i hknown
            -- every row that stands for a path stands for this one
            obtain ⟨r, hr, hown⟩ := hpath.resolve_left hknown
            have hsame := List.all_eq_true.mp hall r hr
            rw [hown] at hsame
            simpa using hsame
        · exact absurd hafter (by simp)

theorem Forecast.Holds.row {k : Forecast} {ctx : Context} (h : k.Holds ctx) (hpath : PathOfRow values ctx)
    {r : HidInfo × ℚ} (hfull : r.1.conv = .eatonCharging → chargeIsFull data' = chargeIsFull data) :
    (k.row values data r).Holds (applyLast data' ctx r) := by
  unfold Forecast.row applyLast
  cases hstatus : isStatusRow r.1 with
  | true =>
      rw [if_pos rfl, applyRow_of_status hstatus]
      refine ⟨h.abm, h.abmPath, ?_⟩
      intro b hb value hvalue
      rw [isSet_applyStatusToken _ _ hb, isKnown_applyStatusToken _ _ hb]
      dsimp only at hvalue
      cases hcertain : k.certain r.1 with
      | true =>
          rw [hcertain, if_pos rfl] at hvalue
          rw [statusToken_of_certain h hcertain hfull]
          cases heffect : tokenEffect (statusToken r.1 r.2 k.sample data) b with
          | some given =>
              rw [heffect] at hvalue
              exact ⟨Option.some.inj hvalue, by simp⟩
          | none =>
              rw [heffect] at hvalue
              obtain ⟨hset, hknown⟩ := h.bit b hb value hvalue
              exact ⟨hset, by rw [hknown, Bool.true_or]⟩
      | false =>
          rw [hcertain, if_neg (by simp)] at hvalue
          split at hvalue
          · exact absurd hvalue (by simp)
          · rename_i hother
            obtain ⟨hset, hknown⟩ := h.bit b hb value hvalue
            rw [tokenEffect_of_not_certain hcertain r.2 ctx data' hb hother]
            exact ⟨hset, by rw [hknown, Bool.true_or]⟩
  | false =>
      rw [if_neg (by simp)]
      refine ⟨?_, ?_, ?_⟩
      · intro abm habm
        rw [abm_applyRow]
        dsimp only at habm
        split at habm
        · rename_i hown
          rw [if_pos hown]
          exact Option.some.inj habm
        · rename_i hother
          rw [if_neg hother]
          exact h.abm abm habm
      · intro path hdecided
        rw [abmPath_applyRow]
        cases hown : pathOf r.1 with
        | none =>
            rw [hown] at hdecided
            exact h.abmPath path hdecided
        | some own =>
            rw [hown] at hdecided
            exact h.pathAfter hpath hdecided
      · intro b hb value hvalue
        rw [status_applyRow, hstatus, if_neg (by simp)]
        exact h.bit b hb value hvalue

theorem Forecast.Holds.walk {rows : List (HidInfo × ℚ)} (hrows : ∀ r ∈ rows, r ∈ values)
    (hfull : ∀ r ∈ values, r.1.conv = .eatonCharging → chargeIsFull data' = chargeIsFull data) {k : Forecast}
    {ctx : Context} (h : k.Holds ctx) (hpath : PathOfRow values ctx) :
    (run (Forecast.row values data) k rows).Holds (run (applyLast data') ctx rows) := by
  induction rows generalizing k ctx with
  | nil => exact h
  | cons r rows ih =>
      have hr := hrows r (List.mem_cons_self ..)
      rw [run_cons, run_cons]
      apply ih (fun r hr => hrows r (List.mem_cons_of_mem _ hr))
      · exact h.row hpath (hfull r hr)
      · exact hpath.row hr

/-! ### What holds before the walk -/

/-- The battery monitoring is the one the values decide, and its path that of a row that was read. -/
structure Foreseen (values : List (HidInfo × ℚ)) (ctx : Context) : Prop where
  abm : ∀ abm, (Forecast.before values).abm = some abm → ctx.abm = abm
  path : PathOfRow values ctx

theorem mem_abmValues {r : HidInfo × ℚ} (hr : r ∈ values) (habm : isAbmRow r.1 = true) : r.2 ∈ abmValues values :=
  List.mem_filterMap.mpr ⟨r, hr, if_pos habm⟩

/-- At most one row sets the battery monitoring, so its value is the one that counts. -/
theorem abm_before {r : HidInfo × ℚ} (hr : r ∈ values) (habm : isAbmRow r.1 = true) {abm : Int}
    (hbefore : (Forecast.before values).abm = some abm) : abmOf r.2 = abm := by
  have hmem := mem_abmValues hr habm
  unfold Forecast.before at hbefore
  dsimp only at hbefore
  rw [if_neg (List.ne_nil_of_mem hmem)] at hbefore
  split at hbefore
  · rename_i hone
    obtain ⟨v, hv⟩ := List.length_eq_one_iff.mp hone
    rw [hv] at hbefore hmem
    rw [List.mem_singleton.mp hmem]
    exact Option.some.inj hbefore
  · exact absurd hbefore (by simp)

theorem Foreseen.row {ctx : Context} (h : Foreseen values ctx) {r : HidInfo × ℚ} (hr : r ∈ values) :
    Foreseen values (applyLast data ctx r) where
  abm := by
    intro abm hbefore
    unfold applyLast
    rw [abm_applyRow]
    split
    · rename_i habm
      exact abm_before hr habm hbefore
    · exact h.abm abm hbefore
  path := h.path.row hr

theorem Foreseen.walk {ctx : Context} (h : Foreseen values ctx) :
    Foreseen values (run (applyLast data) ctx values) := by
  have hstep : ∀ ctx r, r ∈ values → Foreseen values ctx → Foreseen values (applyLast data ctx r) :=
    fun ctx r hr hctx => hctx.row hr
  exact run_invariant h hstep values fun r hr => hr

theorem Foreseen.holds {ctx : Context} (h : Foreseen values ctx) : (Forecast.before values).Holds ctx where
  abm := h.abm
  abmPath := by
    intro path hbefore
    unfold Forecast.before at hbefore
    dsimp only at hbefore
    split at hbefore
    · rename_i hnone
      obtain rfl : abmPathUnknown = path := Option.some.inj hbefore
      rcases h.path with hunknown | ⟨r, hr, hpath⟩
      · exact hunknown
      · have hnot := List.all_eq_true.mp hnone r hr
        rw [hpath] at hnot
        exact absurd hnot (by simp)
    · exact absurd hbefore (by simp)
  bit := fun _ _ _ hbefore => absurd hbefore (by simp [Forecast.before])

theorem Foreseen.congr {ctx ctx' : Context} (h : Foreseen values ctx) (hsame : ctx'.shared = ctx.shared) :
    Foreseen values ctx' := by
  obtain ⟨-, habm, hpath⟩ : ctx'.status = ctx.status ∧ ctx'.abm = ctx.abm ∧ ctx'.abmPath = ctx.abmPath := by
    simpa [Context.shared] using hsame
  refine ⟨?_, ?_⟩
  · rw [habm]
    exact h.abm
  · unfold PathOfRow
    rw [hpath]
    exact h.path

/-! ### One value of a run -/

theorem filterMap_set_same {α β : Type} {f : α → Option β} {l : List α} {i : Nat} {a b : α} (ha : l[i]? = some a)
    (hsame : f b = f a) : (l.set i b).filterMap f = l.filterMap f := by
  obtain ⟨hlt, rfl⟩ := List.getElem?_eq_some_iff.mp ha
  have hmap : (l.set i b).map f = l.map f := by
    rw [List.map_set, hsame, ← List.getElem_map f (h := by simpa using hlt), List.set_getElem_self]
  calc (l.set i b).filterMap f
      = ((l.set i b).map f).filterMap id := by rw [List.filterMap_map, Function.id_comp]
    _ = l.filterMap f := by rw [hmap, List.filterMap_map, Function.id_comp]

section

variable {ms : List Memory} {i : Nat} {m : Memory}

theorem mem_walked_set (hm : ms[i]? = some m) (hinternal : isInternalRow m.info = true)
    (halarm : isAlarmRow m.info = false) (v : ℚ) : (m.info, v) ∈ (ms.set i (m.note v)).filterMap Memory.walked := by
  obtain ⟨hlt, -⟩ := List.getElem?_eq_some_iff.mp hm
  refine List.mem_filterMap.mpr ⟨m.note v, List.mem_set hlt _, if_pos ?_⟩
  show (true && isInternalRow m.info && !isAlarmRow m.info) = true
  rw [hinternal, halarm]
  rfl

theorem walked_set_kept (hm : ms[i]? = some m) (v : ℚ) {r : HidInfo × ℚ} (hr : r ∈ ms.filterMap Memory.walked) :
    ∃ r' ∈ (ms.set i (m.note v)).filterMap Memory.walked, r'.1 = r.1 := by
  obtain ⟨other, hother, hwalked⟩ := List.mem_filterMap.mp hr
  obtain ⟨j, hj⟩ := List.getElem?_of_mem hother
  by_cases hij : i = j
  · subst hij
    obtain rfl : m = other := Option.some.inj (hm.symm.trans hj)
    unfold Memory.walked at hwalked
    split at hwalked
    · rename_i hread
      simp only [Bool.and_eq_true, Bool.not_eq_true'] at hread
      obtain rfl := Option.some.inj hwalked
      exact ⟨_, mem_walked_set hm hread.1.2 hread.2 v, rfl⟩
    · exact absurd hwalked (by simp)
  · have hkept : (ms.set i (m.note v))[j]? = some other := by rw [List.getElem?_set_ne hij, hj]
    exact ⟨r, List.mem_filterMap.mpr ⟨other, List.mem_of_getElem? hkept, hwalked⟩, rfl⟩

theorem abmValues_set (hm : ms[i]? = some m) (hother : isAbmRow m.info = false) (v : ℚ) :
    abmValues ((ms.set i (m.note v)).filterMap Memory.walked) = abmValues (ms.filterMap Memory.walked) := by
  have hnone : ∀ seen last, (Memory.walked ⟨m.info, seen, last⟩).bind
      (fun r => if isAbmRow r.1 = true then some r.2 else none) = none := by
    intro seen last
    unfold Memory.walked
    split
    · exact if_neg (by simp [hother])
    · rfl
  unfold abmValues
  rw [List.filterMap_filterMap, List.filterMap_filterMap]
  exact filterMap_set_same hm ((hnone true v).trans (hnone m.seen m.last).symm)

theorem foreseen_set (hm : ms[i]? = some m) (hinternal : isInternalRow m.info = true) {ctx : Context}
    (h : Foreseen (ms.filterMap Memory.walked) ctx) (v : ℚ) :
    Foreseen ((ms.set i (m.note v)).filterMap Memory.walked) (applyRow m.info v ctx data) := by
  have hpath : PathOfRow ((ms.set i (m.note v)).filterMap Memory.walked) ctx := by
    rcases h.path with hunknown | ⟨r, hr, hown⟩
    · exact Or.inl hunknown
    · obtain ⟨r', hr', hinfo⟩ := walked_set_kept hm v hr
      exact Or.inr ⟨r', hr', by rw [hinfo, hown]⟩
  cases halarm : isAlarmRow m.info with
  | true =>
      have hstatus : isStatusRow m.info = false := by
        unfold isAlarmRow at halarm
        unfold isStatusRow
        rw [of_decide_eq_true halarm]
        decide
      rw [applyRow_of_alarm hstatus halarm]
      refine ⟨?_, hpath⟩
      have hother : isAbmRow m.info = false := by simp [isAbmRow, halarm]
      unfold Forecast.before
      rw [abmValues_set hm hother]
      exact h.abm
  | false =>
      have hmem := mem_walked_set hm hinternal halarm v
      refine ⟨?_, hpath.row hmem⟩
      intro abm hbefore
      rw [abm_applyRow]
      cases habm : isAbmRow m.info with
      | true =>
          rw [if_pos rfl]
          exact abm_before hmem habm hbefore
      | false =>
          unfold Forecast.before at hbefore
          rw [abmValues_set hm habm] at hbefore
          rw [if_neg (by simp)]
          exact h.abm abm hbefore

end

/-- What holds of every state of a run. -/
structure Sound (rows : List HidInfo) (s : Session) : Prop where
  infos : infos s.binds = rows
  foreseen : Foreseen (lastValues s.binds) s.ctx
  setKnown : SetKnown s.ctx.status

theorem Sound.read {rows : List HidInfo} {s : Session} (h : Sound rows s) (r : Reading) : Sound rows (s.read r) where
  infos := (infos_onValue s.binds r.row r.value s.ctx r.data).trans h.infos
  setKnown := (grows_onValue (fun _ hinfo => hinfo) r.row r.value s.ctx r.data).setKnown h.setKnown
  foreseen := by
    have hmemories := memories_read s r
    unfold lastValues
    by_cases hread : ∃ b, s.binds[r.row]? = some b ∧ listens b.info = true
    · obtain ⟨b, hb, hlistens⟩ := hread
      have hm : (memories s.binds)[r.row]? = some b.memory := by
        rw [getElem?_memories, hb]
        rfl
      have hinternal : isInternalRow b.info = true := by
        unfold listens at hlistens
        simp_all
      have hctx : (s.read r).ctx = applyRow b.info r.value s.ctx r.data :=
        congrArg Prod.snd (onValue_of_listens hb hlistens r.value s.ctx r.data)
      have hset : remember (memories s.binds) r = (memories s.binds).set r.row (b.memory.note r.value) := by
        unfold remember
        rw [hm]
        exact if_pos hlistens
      rw [hmemories, hset, hctx]
      exact foreseen_set hm hinternal h.foreseen r.value
    · obtain ⟨hsame, hshared⟩ := onValue_of_deaf (fun b hb => Bool.eq_false_iff.mpr fun hlistens => hread ⟨b, hb, hlistens⟩)
        r.value s.ctx r.data
      show Foreseen (List.filterMap Memory.walked (memories (onValue s.binds r.row r.value s.ctx r.data).1)) _
      rw [hsame]
      exact h.foreseen.congr hshared

theorem Sound.walk {rows : List HidInfo} {s : Session} (h : Sound rows s) (data : Option UPSData) :
    Sound rows (s.walk data) where
  infos := h.infos
  setKnown := (grows_walkInternalRows (fun _ hinfo => hinfo) s.ctx data).setKnown h.setKnown
  foreseen := by
    show Foreseen (lastValues s.binds) (walkInternalRows s.binds s.ctx data)
    rw [walkInternalRows_eq]
    exact h.foreseen.walk

theorem Sound.readings {rows : List HidInfo} {s : Session} (h : Sound rows s) (rs : List Reading) :
    Sound rows (run Session.read s rs) := by
  have hstep : ∀ s r, True → Sound rows s → Sound rows (Session.read s r) := fun s r _ hs => hs.read r
  exact run_invariant h hstep rs fun _ _ => trivial

theorem Sound.deliver {rows : List HidInfo} {s : Session} (h : Sound rows s) (d : Delivery) :
    Sound rows (s.deliver d) := (h.readings d.readings).walk d.data

/-! ### Two runs -/

/-- The rows as they are bound, with no value read. -/
def Session.start (table : List HidInfo) (usages : List HIDUsageDef) : Session :=
  ⟨bind table usages, Context.initial⟩

def afterRun (table : List HidInfo) (usages : List HIDUsageDef) (deliveries : List Delivery) : Session :=
  run Session.deliver (Session.start table usages) deliveries

def lastData (deliveries : List Delivery) : Option UPSData := deliveries.getLast?.bind Delivery.data

variable {table : List HidInfo} {usages : List HIDUsageDef}

theorem lastValues_start : lastValues (Session.start table usages).binds = [] := by
  show (memories (resolve (bindRows table usages []))).filterMap Memory.walked = []
  rw [memories_resolve, List.filterMap_eq_nil_iff]
  intro m hm
  obtain ⟨b, hb, rfl⟩ := List.mem_map.mp hm
  have hseen : b.seen = false := (fresh_bindRows hb).spec.2.2.2.2.2
  exact if_neg (by simp [Bound.memory, hseen])

theorem sound_start (table : List HidInfo) (usages : List HIDUsageDef) :
    Sound (infos (bind table usages)) (Session.start table usages) where
  infos := rfl
  foreseen := by
    rw [lastValues_start]
    exact ⟨fun abm hbefore => Option.some.inj hbefore, Or.inl rfl⟩
  setKnown := fun b _ hset => absurd hset (by simp [Session.start, Context.initial, StatusBits.empty, StatusBits.isSet])

theorem sound_afterRun (table : List HidInfo) (usages : List HIDUsageDef) (deliveries : List Delivery) :
    Sound (infos (bind table usages)) (afterRun table usages deliveries) := by
  have hstep : ∀ s d, True → Sound (infos (bind table usages)) s →
      Sound (infos (bind table usages)) (Session.deliver s d) := fun s d _ hs => hs.deliver d
  exact run_invariant (sound_start table usages) hstep deliveries fun _ _ => trivial

theorem bound_of_lastValues {deliveries : List Delivery} {r : HidInfo × ℚ}
    (hr : r ∈ lastValues (afterRun table usages deliveries).binds) : ∃ b ∈ bind table usages, b.info = r.1 := by
  obtain ⟨m, hm, hwalked⟩ := List.mem_filterMap.mp hr
  obtain ⟨b, hb, rfl⟩ := List.mem_map.mp hm
  unfold Memory.walked at hwalked
  split at hwalked
  · obtain rfl := Option.some.inj hwalked
    have hinfo : b.info ∈ infos (afterRun table usages deliveries).binds := List.mem_map_of_mem hb
    rw [(sound_afterRun table usages deliveries).infos] at hinfo
    exact List.mem_map.mp hinfo
  · exact absurd hwalked (by simp)

/-- Every run ends with the bits the forecast over its last values gives. -/
theorem status_forecast (deliveries : List Delivery) {data : Option UPSData}
    (hfull : (∃ b ∈ bind table usages, b.info.conv = .eatonCharging) →
      chargeIsFull (lastData deliveries) = chargeIsFull data) :
    (forecast (lastValues (afterRun table usages deliveries).binds) data).Holds
      (afterRun table usages deliveries).ctx := by
  have hrows : ∀ r ∈ lastValues (afterRun table usages deliveries).binds,
      r.1.conv = .eatonCharging → chargeIsFull (lastData deliveries) = chargeIsFull data := by
    intro r hr hconv
    obtain ⟨b, hb, hinfo⟩ := bound_of_lastValues hr
    exact hfull ⟨b, hb, by rw [hinfo, hconv]⟩
  rcases List.eq_nil_or_concat deliveries with rfl | ⟨before, d, rfl⟩
  · have hstart := (sound_start table usages).foreseen.holds
    show (forecast (lastValues (Session.start table usages).binds) data).Holds _
    rw [lastValues_start] at hstart ⊢
    exact hstart
  · rw [List.concat_eq_append] at hrows ⊢
    have hlast : lastData (before ++ [d]) = d.data := by
      unfold lastData
      rw [List.getLast?_append]
      rfl
    rw [hlast] at hrows
    unfold afterRun at hrows ⊢
    rw [run_snoc] at hrows ⊢
    have hsound := (sound_afterRun table usages before).readings d.readings
    show Forecast.Holds _ (walkInternalRows _ _ _)
    rw [walkInternalRows_eq]
    exact hsound.foreseen.holds.walk (fun _ hr => hr) hrows hsound.foreseen.path

/-- The last values decide the bit: the forecast over them gives it a value. -/
def LastValuesDecide (table : List HidInfo) (usages : List HIDUsageDef) (deliveries : List Delivery) (b : Nat) : Prop :=
  ((forecast (lastValues (afterRun table usages deliveries).binds) (lastData deliveries)).bit b).isSome = true

instance (table : List HidInfo) (usages : List HIDUsageDef) (deliveries : List Delivery) (b : Nat) :
    Decidable (LastValuesDecide table usages deliveries b) := inferInstanceAs (Decidable (_ = true))

theorem isSet_of_unknown {s : StatusBits} (h : SetKnown s) {b : Nat} (hb : b < 32) (hunknown : s.isKnown b = false) :
    s.isSet b = false := by
  cases hset : s.isSet b with
  | false => rfl
  | true => exact absurd (h b hb hset) (by simp [hunknown])

theorem StatusBits.eq_of_bits {s s' : StatusBits} (hset : ∀ b < 32, s.isSet b = s'.isSet b)
    (hknown : ∀ b < 32, s.isKnown b = s'.isKnown b) : s = s' := by
  obtain ⟨set, known⟩ := s
  obtain ⟨set', known'⟩ := s'
  congr 1
  · apply BitVec.eq_of_getLsbD_eq
    intro b hb
    have h := hset b hb
    rwa [isSet_eq _ hb, isSet_eq _ hb] at h
  · apply BitVec.eq_of_getLsbD_eq
    intro b hb
    have h := hknown b hb
    rwa [isKnown_eq _ hb, isKnown_eq _ hb] at h

/-- Two runs that give every internal row the same values end with the same bits where the last values decide, and with the same status when these are all the bits that became known. -/
theorem status_of_last_values (table : List HidInfo) (usages : List HIDUsageDef) {first second : List Delivery}
    (hsame : SameValues (bind table usages) first second)
    (hfull : (∃ b ∈ bind table usages, b.info.conv = .eatonCharging) →
      chargeIsFull (lastData second) = chargeIsFull (lastData first)) :
    (∀ b < 32, LastValuesDecide table usages first b →
        (afterRun table usages first).ctx.status.isSet b = (afterRun table usages second).ctx.status.isSet b
          ∧ (afterRun table usages first).ctx.status.isKnown b = (afterRun table usages second).ctx.status.isKnown b)
      ∧ ((∀ b < 32, (afterRun table usages first).ctx.status.isKnown b = true
            ∨ (afterRun table usages second).ctx.status.isKnown b = true → LastValuesDecide table usages first b) →
        (afterRun table usages first).ctx.status = (afterRun table usages second).ctx.status) := by
  have hvalues : lastValues (afterRun table usages second).binds = lastValues (afterRun table usages first).binds :=
    congrArg (List.filterMap Memory.walked) (memories_same hsame Context.initial).symm
  have hfirst : (forecast (lastValues (afterRun table usages first).binds) (lastData first)).Holds
      (afterRun table usages first).ctx := status_forecast first fun _ => rfl
  have hsecond := status_forecast second hfull
  rw [hvalues] at hsecond
  have hdecided : ∀ b < 32, LastValuesDecide table usages first b →
      (afterRun table usages first).ctx.status.isSet b = (afterRun table usages second).ctx.status.isSet b
        ∧ (afterRun table usages first).ctx.status.isKnown b
          = (afterRun table usages second).ctx.status.isKnown b := by
    intro b hb hdecide
    obtain ⟨value, hvalue⟩ := Option.isSome_iff_exists.mp hdecide
    obtain ⟨hset, hknown⟩ := hfirst.bit b hb value hvalue
    obtain ⟨hset', hknown'⟩ := hsecond.bit b hb value hvalue
    exact ⟨hset.trans hset'.symm, hknown.trans hknown'.symm⟩
  refine ⟨hdecided, fun hall => ?_⟩
  have hbits : ∀ b < 32,
      (afterRun table usages first).ctx.status.isSet b = (afterRun table usages second).ctx.status.isSet b
        ∧ (afterRun table usages first).ctx.status.isKnown b
          = (afterRun table usages second).ctx.status.isKnown b := by
    intro b hb
    by_cases hknown : (afterRun table usages first).ctx.status.isKnown b = true
        ∨ (afterRun table usages second).ctx.status.isKnown b = true
    · exact hdecided b hb (hall b hb hknown)
    · rw [not_or, Bool.not_eq_true, Bool.not_eq_true] at hknown
      rw [isSet_of_unknown (sound_afterRun table usages first).setKnown hb hknown.1,
        isSet_of_unknown (sound_afterRun table usages second).setKnown hb hknown.2, hknown.1, hknown.2]
      exact ⟨rfl, rfl⟩
  exact StatusBits.eq_of_bits (fun b hb => (hbits b hb).1) fun b hb => (hbits b hb).2

/-! ### A charger with both paths -/

def chargerRow (name : String) (conv : Conv) (path : String) : HidInfo :=
  { infoType := name, infoFlags := 0, infoLen := 0, hidpath := some path, dfl := some "%.0f",
    hidflags := huFlagQuickPoll, conv := conv, lkp := [] }

/-- The rows of the battery monitoring, as they stand in the table of the MGE devices. -/
def chargerTable : List HidInfo :=
  [ chargerRow "battery.charger.abm.status" .abmEnabled "UPS.BatterySystem.Charger.0xFFFF0087",
    chargerRow "battery.charger.mode.status" .abmPathMode "UPS.BatterySystem.Charger.0xFFFF0094",
    chargerRow "battery.charger.type.status" .abmPathStatus "UPS.BatterySystem.Charger.0xFFFF00E9",
    chargerRow "BOOL" .abmChrgDischrg "UPS.BatterySystem.Charger.0xFFFF0094",
    chargerRow "BOOL" .abmChrgDischrg "UPS.BatterySystem.Charger.0xFFFF00E9" ]

def chargerUsage (reportId : Nat) (path : String) : HIDUsageDef :=
  { usage := 0, reportId := reportId, reportType := 3, bitOffset := 0, bitSize := 8, found := true,
    logicalMin := 0, logicalMax := 255, exponent := 0, unit := 0, path := path,
    collIndex := [0, 0, 0, 0, 0, 0, 0, 0] }

/-- A device with one path, and one with both. -/
def modeUsages : List HIDUsageDef :=
  [ chargerUsage 1 "UPS.BatterySystem.Charger.0xFFFF0087", chargerUsage 2 "UPS.BatterySystem.Charger.0xFFFF0094" ]

def chargerUsages : List HIDUsageDef := modeUsages ++ [chargerUsage 3 "UPS.BatterySystem.Charger.0xFFFF00E9"]

/-- A report with one value for some rows. -/
def reportOf (rows : List Nat) (v : ℚ) : Delivery := ⟨rows.map fun i => ⟨i, v, none⟩, none⟩

/-- With one path, the battery is found discharging whichever report comes first. -/
theorem status_of_last_values_mode :
    (afterRun chargerTable modeUsages [reportOf [0] 1, reportOf [1, 2] 2]).ctx.status
      = (afterRun chargerTable modeUsages [reportOf [1, 2] 2, reportOf [0] 1]).ctx.status := by
  have hsame : SameValues (bind chargerTable modeUsages) [reportOf [0] 1, reportOf [1, 2] 2]
      [reportOf [1, 2] 2, reportOf [0] 1] := by
    intro i b _ _
    rcases i with _ | _ | _ | i <;> rfl
  apply (status_of_last_values chargerTable modeUsages hsame fun _ => rfl).2
  decide +kernel

/-- With both paths, the report that comes first decides how the charger is read, and so whether the battery discharges. -/
theorem first_path_decides :
    ¬∀ (table : List HidInfo) (usages : List HIDUsageDef) (first second : List Delivery),
        SameValues (bind table usages) first second →
          (afterRun table usages first).ctx.status = (afterRun table usages second).ctx.status := by
  intro hall
  have hsame : SameValues (bind chargerTable chargerUsages) [reportOf [0] 1, reportOf [1, 3] 4, reportOf [2, 4] 4]
      [reportOf [0] 1, reportOf [2, 4] 4, reportOf [1, 3] 4] := by
    intro i b _ _
    rcases i with _ | _ | _ | _ | _ | i <;> rfl
  have hset := congrArg (fun s => s.isSet 2) (hall _ _ _ _ hsame)
  exact absurd hset (by decide +kernel)

end EspNut.NutTable
