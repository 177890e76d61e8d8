import EspNut.Ups.Status
import EspNut.Table.Accumulate

/-!
# The status string shows the status bits

The bits become keys of the data and the keys become the words of the status. `Published` relates the keys to the bits; it holds again after a publication of later bits, since a known bit is never forgotten. `renderedWords` is the status read off the bits alone.
-/

namespace EspNut

open Lib Rounding NutTable

/-! ### The status of the bits -/

/-- The bit of a token is set. -/
def NutTable.StatusBits.shows (s : StatusBits) (token : String) : Bool := s.isSet (kStatusTokens.idxOf token)

/-- A charging battery is shown unless it is full: by its bits, or by the charge. -/
def NutTable.StatusBits.showsCharging (s : StatusBits) (charge : ℚ) : Bool :=
  s.shows "chrg"
    && if s.shows "fullycharged" || s.shows "notfullycharged" then !s.shows "fullycharged"
      else decide (0 < charge ∧ charge < 100)

/-- The words the bits, the charge and the alarm call for, in their order. -/
def NutTable.StatusBits.renderedWords (s : StatusBits) (charge : ℚ) : List String :=
  UPSData.token (s.shows "cal") "CAL"
    ++ UPSData.token (s.shows "online") "OL"
    ++ UPSData.token (!s.shows "online" && (s.shows "offline" || s.shows "dischrg")) "OB"
    ++ UPSData.token (s.shows "dischrg" && !s.shows "depleted") "DISCHRG"
    ++ UPSData.token (s.showsCharging charge) "CHRG"
    ++ UPSData.token (s.shows "lowbatt" || s.shows "timelimitexp" || s.shows "shutdownimm") "LB"
    ++ UPSData.token (s.shows "overload") "OVER"
    ++ UPSData.token (s.shows "replacebatt" || s.shows "nobattery") "RB"
    ++ UPSData.token (s.shows "trim") "TRIM"
    ++ UPSData.token (s.shows "boost") "BOOST"
    ++ UPSData.token (s.shows "bypassauto" || s.shows "bypassman") "BYPASS"
    ++ UPSData.token (s.shows "off") "OFF"

/-- The words of the whole status: the alarm in front, and one word when there is no other. -/
def NutTable.StatusBits.statusWords (s : StatusBits) (charge : ℚ) (alarm : Bool) : List String :=
  if UPSData.token alarm "ALARM" ++ s.renderedWords charge = [] then ["Unknown"]
  else UPSData.token alarm "ALARM" ++ s.renderedWords charge

/-! ### The keys of the bits -/

/-- The value of a key that stands for two bits. -/
def pairValue (s : StatusBits) (yes no : Nat) : Option String :=
  if s.isSet yes then some "1" else if s.isSet no then some "0" else none

def bitValue (s : StatusBits) (b : Nat) : Option String :=
  if s.isKnown b then some (if s.isSet b then "1" else "0") else none

/-- The data has the keys of the bits, and no other key the status is computed from. -/
structure Published (d : UPSData) (s : StatusBits) : Prop where
  acPresent : d.find "ups.status.ac_present" = pairValue s stOnline stOffline
  fullyCharged : d.find "ups.status.fully_charged" = pairValue s stFullycharged stNotfullycharged
  bit : ∀ b key, statusKeyNames[b]? = some (some key) → d.find key = bitValue s b
  good : d.find "ups.status.good" = none

theorem lt_of_key {b : Nat} {key : String} (h : statusKeyNames[b]? = some (some key)) : b < 32 := by
  obtain ⟨hlt, -⟩ := List.getElem?_eq_some_iff.mp h
  have hlength : statusKeyNames.length = 30 := rfl
  omega

theorem statusKeyNames_inj {a b : Nat} {key : String} (ha : statusKeyNames[a]? = some (some key))
    (hb : statusKeyNames[b]? = some (some key)) : a = b := by
  have hall : ∀ a ∈ List.range 32, ∀ b ∈ List.range 32,
      statusKeyNames[a]? = statusKeyNames[b]? ∧ statusKeyNames[a]? ≠ some none ∧ statusKeyNames[a]? ≠ none → a = b := by
    decide +kernel
  exact hall a (List.mem_range.mpr (lt_of_key ha)) b (List.mem_range.mpr (lt_of_key hb))
    ⟨ha.trans hb.symm, by rw [ha]; simp, by rw [ha]; simp⟩

theorem mem_bitKey_iff {s : StatusBits} {b : Nat} {change : String × Option String} :
    change ∈ bitKey s b ↔ ∃ key, statusKeyNames[b]? = some (some key) ∧ s.isKnown b = true
      ∧ change = (key, bitValue s b) := by
  unfold bitKey bitValue
  constructor
  · intro h
    split at h
    · rename_i key hkey
      split at h
      · rename_i hknown
        refine ⟨key, hkey, hknown, ?_⟩
        rw [if_pos hknown]
        exact List.mem_singleton.mp h
      · exact absurd h (by simp)
    · exact absurd h (by simp)
  · rintro ⟨key, hkey, hknown, rfl⟩
    rw [hkey]
    simp [hknown]

theorem mem_pairKey_iff {s : StatusBits} {name : String} {yes no : Nat} (hyes : yes < 32) (hno : no < 32)
    {change : String × Option String} :
    change ∈ pairKey s name yes no ↔ (s.isKnown yes = true ∨ s.isKnown no = true)
      ∧ change = (name, pairValue s yes no) := by
  have hmask : s.known &&& (statusBit yes ||| statusBit no) ≠ 0
      ↔ s.isKnown yes = true ∨ s.isKnown no = true := by
    rw [isKnown_eq s hyes, isKnown_eq s hno]
    rw [← masked_ne_zero s.known hyes, ← masked_ne_zero s.known hno, decide_eq_true_eq, decide_eq_true_eq]
    have hor : s.known &&& (statusBit yes ||| statusBit no)
        = (s.known &&& statusBit yes) ||| (s.known &&& statusBit no) := BitVec.and_or_distrib_left ..
    rw [hor, ← not_and_or, not_iff_not]
    exact BitVec.or_eq_zero_iff
  unfold pairKey pairValue
  by_cases h : s.known &&& (statusBit yes ||| statusBit no) ≠ 0
  · rw [if_pos h]
    simp [hmask.mp h]
  · rw [if_neg h]
    simp [mt hmask.mpr h]

theorem pairValue_of_unknown {s : StatusBits} (hset : SetKnown s) {yes no : Nat} (hyes : yes < 32) (hno : no < 32)
    (h : ¬(s.isKnown yes = true ∨ s.isKnown no = true)) : pairValue s yes no = none := by
  obtain ⟨hyesUnknown, hnoUnknown⟩ := not_or.mp h
  unfold pairValue
  rw [if_neg (mt (hset yes hyes) hyesUnknown), if_neg (mt (hset no hno) hnoUnknown)]

theorem find_pairKey {d : UPSData} {s s' : StatusBits} (hset : SetKnown s) (hset' : SetKnown s')
    (hknown : ∀ b < 32, s.isKnown b = true → s'.isKnown b = true) {name : String} {yes no : Nat}
    (hyes : yes < 32) (hno : no < 32) (hmem : ∀ change ∈ pairKey s' name yes no, change ∈ statusKeys s')
    (hown : ∀ change ∈ statusKeys s', change.1 = name → change ∈ pairKey s' name yes no)
    (hfind : d.find name = pairValue s yes no) :
    ((statusKeys s').foldl (fun d key => d.put key.1 key.2) d).find name = pairValue s' yes no := by
  by_cases h : s'.isKnown yes = true ∨ s'.isKnown no = true
  · apply UPSData.find_foldl_put_of_mem d (hmem _ ((mem_pairKey_iff hyes hno).mpr ⟨h, rfl⟩))
    intro change hchange hname
    obtain ⟨-, rfl⟩ := (mem_pairKey_iff hyes hno).mp (hown change hchange hname)
    rfl
  · -- neither bit is known, and neither was before
    have hbefore : ¬(s.isKnown yes = true ∨ s.isKnown no = true) :=
      fun hold => h (hold.imp (hknown yes hyes) (hknown no hno))
    rw [UPSData.find_foldl_put, hfind, pairValue_of_unknown hset hyes hno hbefore,
      pairValue_of_unknown hset' hyes hno h]
    intro change hchange hname
    exact h ((mem_pairKey_iff hyes hno).mp (hown change hchange hname)).1

theorem mem_statusKeys_iff {s : StatusBits} {change : String × Option String} :
    change ∈ statusKeys s ↔ change ∈ pairKey s "ups.status.ac_present" stOnline stOffline
      ∨ change ∈ pairKey s "ups.status.fully_charged" stFullycharged stNotfullycharged
      ∨ ∃ b, change ∈ bitKey s b := by
  unfold statusKeys
  rw [List.mem_append, List.mem_append, List.mem_flatMap, or_assoc]
  constructor
  · rintro (hac | hfull | ⟨b, -, hb⟩)
    · exact Or.inl hac
    · exact Or.inr (Or.inl hfull)
    · exact Or.inr (Or.inr ⟨b, hb⟩)
  · rintro (hac | hfull | ⟨b, hb⟩)
    · exact Or.inl hac
    · exact Or.inr (Or.inl hfull)
    · obtain ⟨key, hkey, -⟩ := mem_bitKey_iff.mp hb
      obtain ⟨hlt, -⟩ := List.getElem?_eq_some_iff.mp hkey
      exact Or.inr (Or.inr ⟨b, List.mem_range.mpr hlt, hb⟩)

/-- The keys that stand for two bits are no keys of one bit, and nothing is published as good. -/
theorem key_ne {b : Nat} {key : String} (h : statusKeyNames[b]? = some (some key)) :
    key ≠ "ups.status.ac_present" ∧ key ≠ "ups.status.fully_charged" ∧ key ≠ "ups.status.good" := by
  have hall : ∀ name ∈ statusKeyNames, name ≠ some "ups.status.ac_present"
      ∧ name ≠ some "ups.status.fully_charged" ∧ name ≠ some "ups.status.good" := by
    decide +kernel
  obtain ⟨hac, hfull, hgood⟩ := hall _ (List.mem_of_getElem? h)
  exact ⟨fun heq => hac (by rw [heq]), fun heq => hfull (by rw [heq]), fun heq => hgood (by rw [heq])⟩

theorem published_put {d : UPSData} {s s' : StatusBits} (h : Published d s) (hset : SetKnown s) (hset' : SetKnown s')
    (hknown : ∀ b < 32, s.isKnown b = true → s'.isKnown b = true) :
    Published ((statusKeys s').foldl (fun d key => d.put key.1 key.2) d) s' where
  acPresent := by
    apply find_pairKey hset hset' hknown (by decide) (by decide) ?_ ?_ h.acPresent
    · exact fun change hchange => mem_statusKeys_iff.mpr (Or.inl hchange)
    · intro change hchange hname
      rcases mem_statusKeys_iff.mp hchange with hac | hfull | ⟨b, hb⟩
      · exact hac
      · obtain ⟨-, rfl⟩ := (mem_pairKey_iff (by decide) (by decide)).mp hfull
        exact absurd hname (by simp)
      · obtain ⟨key, hkey, -, rfl⟩ := mem_bitKey_iff.mp hb
        exact absurd hname (key_ne hkey).1
  fullyCharged := by
    apply find_pairKey hset hset' hknown (by decide) (by decide) ?_ ?_ h.fullyCharged
    · exact fun change hchange => mem_statusKeys_iff.mpr (Or.inr (Or.inl hchange))
    · intro change hchange hname
      rcases mem_statusKeys_iff.mp hchange with hac | hfull | ⟨b, hb⟩
      · obtain ⟨-, rfl⟩ := (mem_pairKey_iff (by decide) (by decide)).mp hac
        exact absurd hname (by simp)
      · exact hfull
      · obtain ⟨key, hkey, -, rfl⟩ := mem_bitKey_iff.mp hb
        exact absurd hname (key_ne hkey).2.1
  bit := by
    intro b key hkey
    have hown : ∀ change ∈ statusKeys s', change.1 = key →
        s'.isKnown b = true ∧ change = (key, bitValue s' b) := by
      intro change hchange hname
      rcases mem_statusKeys_iff.mp hchange with hac | hfull | ⟨a, ha⟩
      · obtain ⟨-, rfl⟩ := (mem_pairKey_iff (by decide) (by decide)).mp hac
        exact absurd hname.symm (key_ne hkey).1
      · obtain ⟨-, rfl⟩ := (mem_pairKey_iff (by decide) (by decide)).mp hfull
        exact absurd hname.symm (key_ne hkey).2.1
      · obtain ⟨other, hother, hknownOther, rfl⟩ := mem_bitKey_iff.mp ha
        obtain rfl : other = key := hname
        obtain rfl : a = b := statusKeyNames_inj hother hkey
        exact ⟨hknownOther, rfl⟩
    by_cases hnow : s'.isKnown b = true
    · apply UPSData.find_foldl_put_of_mem
      · exact mem_statusKeys_iff.mpr (Or.inr (Or.inr ⟨b, mem_bitKey_iff.mpr ⟨key, hkey, hnow, rfl⟩⟩))
      · intro change hchange hname
        rw [(hown change hchange hname).2]
    · have hbefore : s.isKnown b ≠ true := mt (hknown b (lt_of_key hkey)) hnow
      rw [UPSData.find_foldl_put _ _ fun change hchange hname => hnow (hown change hchange hname).1,
        h.bit b key hkey]
      unfold bitValue
      rw [if_neg hbefore, if_neg hnow]
  good := by
    rw [UPSData.find_foldl_put _ _ ?_, h.good]
    intro change hchange hname
    rcases mem_statusKeys_iff.mp hchange with hac | hfull | ⟨b, hb⟩
    · obtain ⟨-, rfl⟩ := (mem_pairKey_iff (by decide) (by decide)).mp hac
      exact absurd hname (by simp)
    · obtain ⟨-, rfl⟩ := (mem_pairKey_iff (by decide) (by decide)).mp hfull
      exact absurd hname (by simp)
    · obtain ⟨key, hkey, -, rfl⟩ := mem_bitKey_iff.mp hb
      exact absurd hname (key_ne hkey).2.2

/-! ### From the keys to the words -/

theorem getBool_key {d : UPSData} {s : StatusBits} (h : Published d s) (hset : SetKnown s) {b : Nat} {key : String}
    (hkey : statusKeyNames[b]? = some (some key)) : d.getBool key = s.isSet b := by
  unfold UPSData.getBool
  rw [h.bit b key hkey]
  unfold bitValue
  cases hbit : s.isSet b with
  | true =>
      rw [if_pos (hset b (lt_of_key hkey) hbit)]
      rfl
  | false => split <;> rfl

theorem hasKey_and_getBool {d : UPSData} {s : StatusBits} (h : Published d s) (hset : SetKnown s) {b : Nat}
    {key : String} (hkey : statusKeyNames[b]? = some (some key)) :
    (d.hasKey key && d.getBool key) = s.isSet b := by
  rw [getBool_key h hset hkey]
  unfold UPSData.hasKey
  rw [h.bit b key hkey]
  unfold bitValue
  cases hbit : s.isSet b with
  | true =>
      rw [if_pos (hset b (lt_of_key hkey) hbit)]
      rfl
  | false => exact Bool.and_false _

theorem hasKey_pair {d : UPSData} {s : StatusBits} {key : String} {yes no : Nat}
    (h : d.find key = pairValue s yes no) : d.hasKey key = (s.isSet yes || s.isSet no) := by
  unfold UPSData.hasKey
  rw [h]
  unfold pairValue
  cases s.isSet yes <;> cases s.isSet no <;> rfl

theorem getBool_pair {d : UPSData} {s : StatusBits} {key : String} {yes no : Nat}
    (h : d.find key = pairValue s yes no) : d.getBool key = s.isSet yes := by
  unfold UPSData.getBool
  rw [h]
  unfold pairValue
  cases s.isSet yes <;> cases s.isSet no <;> rfl

/-- The tokens computed from the keys are the words of the bits. -/
theorem statusTokens_eq {d : UPSData} {s : StatusBits} (h : Published d s) (hset : SetKnown s) :
    d.statusTokens = s.renderedWords (d.getFloat "battery.charge" (-1)) := by
  have hbit : ∀ b key, statusKeyNames[b]? = some (some key) → d.getBool key = s.isSet b :=
    fun b key hkey => getBool_key h hset hkey
  have hdischrg : (d.hasKey "ups.status.discharging" && d.getBool "ups.status.discharging") = s.isSet 2 :=
    hasKey_and_getBool h hset rfl
  have hchrg : (d.hasKey "ups.status.charging" && d.getBool "ups.status.charging") = s.isSet 3 :=
    hasKey_and_getBool h hset rfl
  have hgood : d.hasKey "ups.status.good" = false := by
    unfold UPSData.hasKey
    rw [h.good]
    rfl
  have hmains : d.onMains (s.isSet 2) = s.isSet stOnline := by
    unfold UPSData.onMains
    rw [hasKey_pair h.acPresent, getBool_pair h.acPresent, hgood]
    cases s.isSet stOnline <;> cases s.isSet stOffline <;> rfl
  have hcharging : d.showsCharging = s.showsCharging (d.getFloat "battery.charge" (-1)) := by
    unfold UPSData.showsCharging
    rw [hchrg, hasKey_pair h.fullyCharged, getBool_pair h.fullyCharged]
    rfl
  unfold UPSData.statusTokens
  dsimp only
  rw [hdischrg, hmains, hcharging, hasKey_pair h.acPresent, getBool_pair h.acPresent]
  simp only [UPSData.flagSet, hbit 15 "ups.status.cal" rfl, hbit 18 "ups.status.depleted" rfl,
    hbit 4 "ups.status.battery_low" rfl, hbit 19 "ups.status.remaining_time_limit_expired" rfl,
    hbit 7 "ups.status.shutdown_imminent" rfl, hbit 5 "ups.status.overload" rfl,
    hbit 6 "ups.status.replace_battery" rfl, hbit 24 "ups.status.no_battery" rfl,
    hbit 8 "ups.status.trim" rfl, hbit 9 "ups.status.boost" rfl, hbit 10 "ups.status.bypassauto" rfl,
    hbit 11 "ups.status.bypassman" rfl, hbit 14 "ups.status.off" rfl]
  have hbattery : (if (s.isSet stOnline || s.isSet stOffline) = true then !s.isSet stOnline else s.isSet 2)
      = (!s.isSet stOnline && (s.isSet stOffline || s.isSet 2)) := by
    cases s.isSet stOnline <;> cases s.isSet stOffline <;> rfl
  rw [hbattery]
  rfl

theorem mem_token_iff {condition : Bool} {text word : String} :
    word ∈ UPSData.token condition text ↔ condition = true ∧ word = text := by
  unfold UPSData.token
  cases condition <;> simp

/-- A word is in the status exactly when its bits call for it. -/
theorem mem_renderedWords_iff {s : StatusBits} {charge : ℚ} {word : String} :
    word ∈ s.renderedWords charge ↔
      s.shows "cal" = true ∧ word = "CAL" ∨ s.shows "online" = true ∧ word = "OL"
      ∨ (s.shows "online" = false ∧ (s.shows "offline" = true ∨ s.shows "dischrg" = true)) ∧ word = "OB"
      ∨ (s.shows "dischrg" = true ∧ s.shows "depleted" = false) ∧ word = "DISCHRG"
      ∨ s.showsCharging charge = true ∧ word = "CHRG"
      ∨ (s.shows "lowbatt" = true ∨ s.shows "timelimitexp" = true ∨ s.shows "shutdownimm" = true) ∧ word = "LB"
      ∨ s.shows "overload" = true ∧ word = "OVER"
      ∨ (s.shows "replacebatt" = true ∨ s.shows "nobattery" = true) ∧ word = "RB"
      ∨ s.shows "trim" = true ∧ word = "TRIM" ∨ s.shows "boost" = true ∧ word = "BOOST"
      ∨ (s.shows "bypassauto" = true ∨ s.shows "bypassman" = true) ∧ word = "BYPASS"
      ∨ s.shows "off" = true ∧ word = "OFF" := by
  unfold StatusBits.renderedWords
  simp only [List.mem_append, mem_token_iff, Bool.and_eq_true, Bool.or_eq_true, Bool.not_eq_true', or_assoc]

theorem isPrinted_renderedWords {s : StatusBits} {charge : ℚ} {word : String} (h : word ∈ s.renderedWords charge) :
    Text.IsPrinted word := by
  rw [mem_renderedWords_iff] at h
  rcases h with ⟨-, rfl⟩ | ⟨-, rfl⟩ | ⟨-, rfl⟩ | ⟨-, rfl⟩ | ⟨-, rfl⟩ | ⟨-, rfl⟩ | ⟨-, rfl⟩ | ⟨-, rfl⟩ | ⟨-, rfl⟩
    | ⟨-, rfl⟩ | ⟨-, rfl⟩ | ⟨-, rfl⟩
  all_goals decide

theorem intercalate_eq_empty_iff {words : List String} (h : ∀ word ∈ words, Text.IsPrinted word) :
    " ".intercalate words = "" ↔ words = [] := by
  constructor
  · intro hempty
    have hwords := Text.words_intercalate words fun word hword => (h word hword).isWord
    rw [hempty] at hwords
    rw [← hwords]
    rfl
  · rintro rfl
    rfl

/-- The status string is the words of the bits. -/
theorem computeUPSStatusString_eq {d : UPSData} {s : StatusBits} (h : Published d s) (hset : SetKnown s) :
    d.computeUPSStatusString
      = " ".intercalate (s.statusWords (d.getFloat "battery.charge" (-1)) (d.hasKey "ups.alarm")) := by
  have hprinted : ∀ word ∈ s.renderedWords (d.getFloat "battery.charge" (-1)), Text.IsPrinted word :=
    fun word hword => isPrinted_renderedWords hword
  unfold UPSData.computeUPSStatusString StatusBits.statusWords UPSData.hasKey
  dsimp only
  rw [statusTokens_eq h hset, Text.trim_join_blank _ hprinted]
  generalize s.renderedWords (d.getFloat "battery.charge" (-1)) = shown at hprinted
  have hempty := intercalate_eq_empty_iff hprinted
  cases (d.find "ups.alarm").isSome with
  | true =>
      simp only [if_true, UPSData.token, List.cons_append, List.nil_append, List.cons_ne_nil, if_false]
      cases shown with
      | nil => rfl
      | cons word rest =>
          rw [if_neg (mt hempty.mp (by simp)), String.intercalate_cons_cons]
          rfl
  | false =>
      simp only [Bool.false_eq_true, if_false, UPSData.token, List.nil_append]
      by_cases hnone : shown = []
      · rw [hnone]
        rfl
      · rw [if_neg (mt hempty.mp hnone), if_neg hnone]

/-- The words of the status string are those of the bits. -/
theorem words_statusWords (s : StatusBits) (charge : ℚ) (alarm : Bool) :
    Text.words (" ".intercalate (s.statusWords charge alarm)) = s.statusWords charge alarm := by
  apply Text.words_intercalate
  intro word hword
  apply Text.IsPrinted.isWord
  unfold StatusBits.statusWords at hword
  split at hword
  · rw [List.mem_singleton.mp hword]
    decide
  · rcases List.mem_append.mp hword with halarm | hshown
    · rw [(mem_token_iff.mp halarm).2]
      decide
    · exact isPrinted_renderedWords hshown

theorem mem_statusWords_iff {s : StatusBits} {charge : ℚ} {alarm : Bool} {word : String} (halarm : word ≠ "ALARM")
    (hunknown : word ≠ "Unknown") : word ∈ s.statusWords charge alarm ↔ word ∈ s.renderedWords charge := by
  unfold StatusBits.statusWords
  split
  · rename_i hnone
    rw [List.append_eq_nil_iff.mp hnone |>.2]
    simp [hunknown]
  · rw [List.mem_append, mem_token_iff]
    simp [halarm]

/-- What the words of a status say about its bits. -/
structure Refines (words : List String) (s : StatusBits) : Prop where
  power : ¬("OL" ∈ words ∧ "OB" ∈ words)
  lowBattery : "LB" ∈ words ↔ s.shows "lowbatt" = true ∨ s.shows "timelimitexp" = true ∨ s.shows "shutdownimm" = true
  replaceBattery : "RB" ∈ words ↔ s.shows "replacebatt" = true ∨ s.shows "nobattery" = true
  discharging : "DISCHRG" ∈ words ↔ s.shows "dischrg" = true ∧ s.shows "depleted" = false
  overload : "OVER" ∈ words ↔ s.shows "overload" = true
  trim : "TRIM" ∈ words ↔ s.shows "trim" = true
  boost : "BOOST" ∈ words ↔ s.shows "boost" = true
  calibration : "CAL" ∈ words ↔ s.shows "cal" = true
  off : "OFF" ∈ words ↔ s.shows "off" = true
  bypass : "BYPASS" ∈ words ↔ s.shows "bypassauto" = true ∨ s.shows "bypassman" = true

theorem refines_statusWords (s : StatusBits) (charge : ℚ) (alarm : Bool) :
    Refines (s.statusWords charge alarm) s where
  power := by
    rw [mem_statusWords_iff (by simp) (by simp), mem_statusWords_iff (by simp) (by simp), mem_renderedWords_iff,
      mem_renderedWords_iff]
    simp only [String.reduceEq, and_false, and_true, false_or, or_false]
    rintro ⟨honline, hnot, -⟩
    rw [honline] at hnot
    exact Bool.noConfusion hnot
  lowBattery := by
    rw [mem_statusWords_iff (by simp) (by simp), mem_renderedWords_iff]
    simp
  replaceBattery := by
    rw [mem_statusWords_iff (by simp) (by simp), mem_renderedWords_iff]
    simp
  discharging := by
    rw [mem_statusWords_iff (by simp) (by simp), mem_renderedWords_iff]
    simp
  overload := by
    rw [mem_statusWords_iff (by simp) (by simp), mem_renderedWords_iff]
    simp
  trim := by
    rw [mem_statusWords_iff (by simp) (by simp), mem_renderedWords_iff]
    simp
  boost := by
    rw [mem_statusWords_iff (by simp) (by simp), mem_renderedWords_iff]
    simp
  calibration := by
    rw [mem_statusWords_iff (by simp) (by simp), mem_renderedWords_iff]
    simp
  off := by
    rw [mem_statusWords_iff (by simp) (by simp), mem_renderedWords_iff]
    simp
  bypass := by
    rw [mem_statusWords_iff (by simp) (by simp), mem_renderedWords_iff]
    simp

end EspNut
