import EspNut.Table.Places

/-!
# The status bits over a run

Only the rows of a table that give status tokens change the status bits, and no step forgets a bit that was known. `Grows` is what any number of these steps do to the bits.
-/

namespace EspNut.NutTable

open Lib Rounding

/-! ### Only status rows change the bits -/

/-- What the internal rows keep for each other: the status bits, the battery monitoring and its path. -/
def Context.shared (ctx : Context) : StatusBits × Int × Int := (ctx.status, ctx.abm, ctx.abmPath)

/-- A conversion remembers the voltage class and the scales, and nothing else. -/
theorem context_decode (info : HidInfo) (v : ℚ) (ctx : Context) (data : Option UPSData) :
    ∃ nominal cps, (decode info v ctx data).2 = { ctx with nominal, cps } := by
  have hsame : ∃ nominal cps, ctx = { ctx with nominal, cps } := ⟨ctx.nominal, ctx.cps, rfl⟩
  unfold decode
  cases hconv : info.conv
  case cpsBattVolt =>
    show ∃ nominal cps, (decodeCpsBattVolt v ctx data).2 = _
    unfold decodeCpsBattVolt
    dsimp only
    split
    · exact ⟨_, _, rfl⟩
    · exact hsame
  case cpsInputFreq =>
    show ∃ nominal cps, (decodeCpsInputFreq v ctx data).2 = _
    unfold decodeCpsInputFreq
    dsimp only
    split
    · exact ⟨_, _, rfl⟩
    · exact hsame
  case cpsOutputFreq =>
    show ∃ nominal cps, (decodeCpsOutputFreq v ctx data).2 = _
    unfold decodeCpsOutputFreq
    dsimp only
    split
    · exact ⟨_, _, rfl⟩
    · exact hsame
  case abmStatus =>
    dsimp only
    split
    · exact hsame
    · split <;> exact hsame
  case nominalVoltage =>
    show ∃ nominal cps, (decodeNominalVoltage v ctx).2 = _
    unfold decodeNominalVoltage nominalVoltageValid
    split
    · exact hsame
    · dsimp only
      split
      · exact ⟨_, _, rfl⟩
      · exact hsame
  all_goals exact hsame

theorem context_convert (info : HidInfo) (v : ℚ) (ctx : Context) (data : Option UPSData) :
    ∃ nominal cps, (convert info v ctx data).2 = { ctx with nominal, cps } := by
  unfold convert
  split
  · split
    · exact ⟨ctx.nominal, ctx.cps, rfl⟩
    · exact context_decode info v ctx data
  · exact context_decode info v ctx data

theorem shared_convert (info : HidInfo) (v : ℚ) (ctx : Context) (data : Option UPSData) :
    (convert info v ctx data).2.shared = ctx.shared := by
  obtain ⟨nominal, cps, hcontext⟩ := context_convert info v ctx data
  rw [hcontext]
  rfl

theorem status_convert (info : HidInfo) (v : ℚ) (ctx : Context) (data : Option UPSData) :
    (convert info v ctx data).2.status = ctx.status :=
  congrArg Prod.fst (shared_convert info v ctx data)

theorem status_applyInternal (info : HidInfo) (v : ℚ) (ctx : Context) :
    (applyInternal info v ctx).status = ctx.status := by
  unfold applyInternal
  cases info.conv
  case abmPathMode | abmPathStatus =>
    dsimp only
    split
    · rfl
    · split <;> rfl
  all_goals rfl

/-- The rows whose texts are status tokens. -/
def isStatusRow (info : HidInfo) : Bool := decide (info.infoType = "BOOL")

theorem status_applyRow (info : HidInfo) (v : ℚ) (ctx : Context) (data : Option UPSData) :
    (applyRow info v ctx data).status
      = if isStatusRow info = true then applyStatusToken ctx.status (statusToken info v ctx data)
        else ctx.status := by
  unfold applyRow isStatusRow
  by_cases hbool : info.infoType = "BOOL"
  · simp [hbool]
  · simp only [hbool, if_false, decide_false, Bool.false_eq_true]
    split
    · rfl
    · exact status_applyInternal info v ctx

/-! ### What tokens do to the bits -/

/-- A status bit is set only once it is known. -/
def SetKnown (s : StatusBits) : Prop := ∀ b < 32, s.isSet b = true → s.isKnown b = true

/-- Power and charge are each reported one way. -/
def Exclusive (s : StatusBits) : Prop :=
  ¬(s.isSet stOnline = true ∧ s.isSet stOffline = true)
    ∧ ¬(s.isSet stFullycharged = true ∧ s.isSet stNotfullycharged = true)

instance (s : StatusBits) : Decidable (Exclusive s) := inferInstanceAs (Decidable (_ ∧ _))

/-- The tokens that neuter each other. -/
def pairedTokens : List String := ["online", "offline", "fullycharged", "notfullycharged"]

/-- The token is none of these four, unless it is spelled as they are. -/
def SpelledExactly (token : String) : Prop :=
  Text.lower token ∈ pairedTokens → token = Text.lower token

instance (token : String) : Decidable (SpelledExactly token) := inferInstanceAs (Decidable (_ → _))

/-- The lookups of the status rows spell the tokens that neuter each other exactly. -/
def ExactTokens (table : List HidInfo) : Prop :=
  ∀ info ∈ table, isStatusRow info = true → info.conv = .lookup → ∀ entry ∈ info.lkp, SpelledExactly entry.nut

instance (table : List HidInfo) : Decidable (ExactTokens table) := inferInstanceAs (Decidable (∀ info ∈ _, _))

/-- What a run of status rows does to the bits. -/
structure Grows (table : List HidInfo) (s s' : StatusBits) : Prop where
  known : ∀ b < 32, s.isKnown b = true → s'.isKnown b = true
  setKnown : SetKnown s → SetKnown s'
  exclusive : ExactTokens table → Exclusive s → Exclusive s'

variable {table : List HidInfo}

theorem Grows.refl (s : StatusBits) : Grows table s s :=
  ⟨fun _ _ h => h, id, fun _ h => h⟩

theorem Grows.trans {s s' s'' : StatusBits} (h : Grows table s s') (h' : Grows table s' s'') : Grows table s s'' where
  known := fun b hb hknown => h'.known b hb (h.known b hb hknown)
  setKnown := fun hset => h'.setKnown (h.setKnown hset)
  exclusive := fun hexact hpair => h'.exclusive hexact (h.exclusive hexact hpair)

/-- A token that sets a bit is its name, ignoring case. -/
theorem lower_of_tokenTarget {token : String} {b : Nat} (h : tokenTarget token = some (b, true)) :
    ∃ known, kStatusTokens[b]? = some known ∧ Text.lower known = Text.lower token := by
  unfold tokenTarget at h
  dsimp only at h
  obtain ⟨i, hfind, htarget⟩ := Option.map_eq_some_iff.mp h
  obtain ⟨hib, hclear⟩ := Prod.mk.inj htarget
  rw [hib] at hfind
  simp only [Bool.not_eq_true', decide_eq_false_iff_not] at hclear
  rw [if_neg (by simpa using hclear)] at hfind
  obtain ⟨hlt, hsame, -⟩ := List.findIdx?_eq_some_iff_getElem.mp hfind
  refine ⟨kStatusTokens[b], List.getElem?_eq_getElem hlt, ?_⟩
  exact (Text.sameIgnoringCase_iff_lower _ _).mp hsame

theorem tokenTarget_of_effect {token : String} {b : Nat} (h : tokenEffect (some token) b = some true) :
    tokenTarget token = some (b, true) := by
  unfold tokenEffect at h
  dsimp only at h
  split at h
  · rename_i hown
    cases htarget : tokenTarget token with
    | none =>
        rw [htarget] at h
        exact absurd h (by simp)
    | some target =>
        rw [htarget] at hown h
        obtain ⟨t, value⟩ := target
        obtain rfl : t = b := Option.some.inj hown
        obtain rfl : value = true := Option.some.inj h
        rfl
  · split at h <;> exact absurd h (by simp)

theorem effect_other {token : String} (hexact : SpelledExactly token) {yes no : Nat}
    (hpair : (yes, no) ∈ [(stOnline, stOffline), (stOffline, stOnline), (stFullycharged, stNotfullycharged),
      (stNotfullycharged, stFullycharged)])
    (h : tokenEffect (some token) yes = some true) : tokenEffect (some token) no = some false := by
  obtain ⟨known, hknown, hlower⟩ := lower_of_tokenTarget (tokenTarget_of_effect h)
  simp only [List.mem_cons, Prod.mk.injEq, List.not_mem_nil, or_false] at hpair
  rcases hpair with ⟨rfl, rfl⟩ | ⟨rfl, rfl⟩ | ⟨rfl, rfl⟩ | ⟨rfl, rfl⟩
  all_goals
    obtain rfl := Option.some.inj hknown
    have hname := hexact (by rw [← hlower]; decide)
    rw [← hlower] at hname
    rw [hname]
    decide

theorem exclusive_applyStatusToken {s : StatusBits} (h : Exclusive s) {token : String}
    (hexact : SpelledExactly token) : Exclusive (applyStatusToken s (some token)) := by
  have hkept : ∀ yes no, yes < 32 → no < 32 →
      (yes, no) ∈ [(stOnline, stOffline), (stOffline, stOnline), (stFullycharged, stNotfullycharged),
        (stNotfullycharged, stFullycharged)] →
      (no, yes) ∈ [(stOnline, stOffline), (stOffline, stOnline), (stFullycharged, stNotfullycharged),
        (stNotfullycharged, stFullycharged)] →
      ¬(s.isSet yes = true ∧ s.isSet no = true) →
      ¬((applyStatusToken s (some token)).isSet yes = true ∧ (applyStatusToken s (some token)).isSet no = true) := by
    intro yes no hyes hno hpair hpair' hs ⟨hsetYes, hsetNo⟩
    rw [isSet_applyStatusToken s _ hyes] at hsetYes
    rw [isSet_applyStatusToken s _ hno] at hsetNo
    -- a bit set by this token has cleared the other one
    cases heffect : tokenEffect (some token) yes with
    | some value =>
        rw [heffect] at hsetYes
        obtain rfl : value = true := hsetYes
        rw [effect_other hexact hpair heffect] at hsetNo
        exact Bool.false_ne_true hsetNo
    | none =>
        rw [heffect] at hsetYes
        cases heffect' : tokenEffect (some token) no with
        | some value =>
            rw [heffect'] at hsetNo
            obtain rfl : value = true := hsetNo
            rw [effect_other hexact hpair' heffect'] at heffect
            exact absurd heffect (by simp)
        | none =>
            rw [heffect'] at hsetNo
            exact hs ⟨hsetYes, hsetNo⟩
  exact ⟨hkept stOnline stOffline (by decide) (by decide) (by decide) (by decide) h.1,
    hkept stFullycharged stNotfullycharged (by decide) (by decide) (by decide) (by decide) h.2⟩

theorem grows_applyStatusToken (s : StatusBits) {token : Option String}
    (hexact : ExactTokens table → ∀ text, token = some text → SpelledExactly text) :
    Grows table s (applyStatusToken s token) where
  known := by
    intro b hb hknown
    rw [isKnown_applyStatusToken s token hb, hknown, Bool.true_or]
  setKnown := by
    intro hset b hb hnow
    rw [isSet_applyStatusToken s token hb] at hnow
    rw [isKnown_applyStatusToken s token hb]
    cases heffect : tokenEffect token b with
    | some value => simp
    | none =>
        rw [heffect] at hnow
        rw [hset b hb hnow, Bool.true_or]
  exclusive := by
    intro htable hpair
    cases token with
    | none => exact hpair
    | some text => exact exclusive_applyStatusToken hpair (hexact htable text rfl)

theorem spelled_tokenIf {condition : Prop} [Decidable condition] {yes no token : String} (hyes : SpelledExactly yes)
    (hno : SpelledExactly no) (h : tokenIf (decide condition) yes no = some token) : SpelledExactly token := by
  unfold tokenIf at h
  obtain rfl := Option.some.inj h
  split
  · exact hyes
  · exact hno

/-- The tokens of an exact table are exact, and so are those of the functions. -/
theorem spelled_statusToken (htable : ExactTokens table) {info : HidInfo} (hinfo : info ∈ table)
    (hbool : isStatusRow info = true) {v : ℚ} {ctx : Context} {data : Option UPSData} {token : String}
    (h : statusToken info v ctx data = some token) : SpelledExactly token := by
  unfold statusToken at h
  cases hconv : info.conv
  all_goals
    rw [hconv] at h
    dsimp only at h
  case lookup =>
    obtain ⟨entry, hentry, rfl⟩ := Option.map_eq_some_iff.mp h
    exact htable info hinfo hbool hconv entry (List.mem_of_find?_eq_some hentry)
  case eatonDischarging =>
    split at h
    · obtain rfl := Option.some.inj h
      decide
    · exact spelled_tokenIf (by decide) (by decide) h
  case eatonCharging =>
    split at h
    · obtain rfl := Option.some.inj h
      decide
    split at h
    · obtain rfl := Option.some.inj h
      decide
    · unfold tokenIf at h
      obtain rfl := Option.some.inj h
      split <;> decide
  case abmChrgDischrg =>
    unfold abmChrgDischrgToken at h
    repeat' split at h
    all_goals
      cases h <;> decide
  case eatonConverterOnline =>
    split at h
    · exact absurd h (by simp)
    · exact spelled_tokenIf (by decide) (by decide) h
  -- the other functions of one condition, and the conversions that give no token
  all_goals first
    | exact spelled_tokenIf (by decide) (by decide) h
    | cases h

theorem grows_applyRow {info : HidInfo} (hinfo : info ∈ table) (v : ℚ) (ctx : Context) (data : Option UPSData) :
    Grows table ctx.status (applyRow info v ctx data).status := by
  rw [status_applyRow]
  split
  · rename_i hbool
    apply grows_applyStatusToken
    intro htable token htoken
    exact spelled_statusToken htable hinfo hbool htoken
  · exact Grows.refl _

theorem grows_onValue {binds : List Bound} (hdrawn : ∀ info ∈ infos binds, info ∈ table) (i : Nat) (v : ℚ)
    (ctx : Context) (data : Option UPSData) : Grows table ctx.status (onValue binds i v ctx data).2.status := by
  cases hb : binds[i]? with
  | none =>
      unfold onValue
      rw [hb]
      exact Grows.refl _
  | some b =>
      have hinfo : b.info ∈ table := hdrawn _ (List.mem_map.mpr ⟨b, List.mem_of_getElem? hb, rfl⟩)
      cases hconverts : b.converts with
      | true =>
          rw [onValue_of_converts hb hconverts]
          rw [status_convert]
          exact Grows.refl _
      | false =>
          rcases onValue_of_not_converts hb hconverts v ctx data with hsame | ⟨-, hwalk⟩
          · rw [hsame]
            exact Grows.refl _
          · rw [hwalk]
            exact grows_applyRow hinfo v ctx data

theorem grows_walkInternalRows {binds : List Bound} (hdrawn : ∀ info ∈ infos binds, info ∈ table) (ctx : Context)
    (data : Option UPSData) : Grows table ctx.status (walkInternalRows binds ctx data).status := by
  unfold walkInternalRows
  induction binds generalizing ctx with
  | nil => exact Grows.refl _
  | cons b binds ih =>
      rw [List.foldl_cons]
      refine Grows.trans ?_ (ih (fun info h => hdrawn info (List.mem_cons_of_mem _ h)) _)
      split
      · exact Grows.refl _
      · exact grows_applyRow (hdrawn b.info (by simp [infos])) b.last ctx data

/-! ### The rows stay those of the table -/

theorem infos_onValue (binds : List Bound) (i : Nat) (v : ℚ) (ctx : Context) (data : Option UPSData) :
    infos (onValue binds i v ctx data).1 = infos binds :=
  infos_of_places (places_onValue binds i v ctx data)

theorem infos_finishInit (binds : List Bound) : infos (finishInit binds) = infos binds :=
  infos_of_places (places_finishInit binds)

end EspNut.NutTable
