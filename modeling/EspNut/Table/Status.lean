import EspNut.Table.Rows
import Mathlib.Data.List.ReduceOption

/-!
# Status bits

The status rows of a table give tokens; each token sets or clears one of thirty bits. `online` and `offline` clear each other before they set their own bit, and so do `fullycharged` and `notfullycharged`. The bits known so far become the internal keys the status of the UPS is computed from.
-/

namespace EspNut.NutTable

structure StatusBits where
  set : BitVec 32
  known : BitVec 32
  deriving DecidableEq

namespace StatusBits

def empty : StatusBits := ⟨0, 0⟩

end StatusBits

/-- The token of each bit, the number of the bit its index. -/
def kStatusTokens : List String :=
  [ "online", "offline", "dischrg", "chrg", "lowbatt", "overload", "replacebatt", "shutdownimm",
    "trim", "boost", "bypassauto", "bypassman", "ecomode", "essmode", "off", "cal",
    "overheat", "commfault", "depleted", "timelimitexp", "fullycharged", "notfullycharged",
    "awaitingpower", "fanfail", "nobattery", "battvoltlo", "battvolthi", "chargerfail",
    "vrange", "frange" ]

def stOnline : Nat := 0
def stOffline : Nat := 1
def stOff : Nat := 14
def stFullycharged : Nat := 20
def stNotfullycharged : Nat := 21

def statusBit (b : Nat) : BitVec 32 := 1#32 <<< b

def StatusBits.isSet (s : StatusBits) (b : Nat) : Bool := s.set &&& statusBit b ≠ 0

def StatusBits.isKnown (s : StatusBits) (b : Nat) : Bool := s.known &&& statusBit b ≠ 0

/-- The bit a token names, ignoring case, and whether it sets the bit. -/
def tokenTarget (token : String) : Option (Nat × Bool) :=
  let clear := token.toList.head? = some '!'
  let name := if clear then String.ofList token.toList.tail else token
  (kStatusTokens.findIdx? fun known => equalsIgnoreCase known name).map fun b => (b, !clear)

/-- The end of `applyStatusToken`: the loop over the tokens. -/
def setOrClear (s : StatusBits) (token : String) : StatusBits :=
  match tokenTarget token with
  | none => s
  | some (b, value) =>
      { set := if value then s.set ||| statusBit b else s.set &&& ~~~statusBit b
        known := s.known ||| statusBit b }

/-- The recursive calls only clear, so they end in the loop. -/
def applyStatusToken (s : StatusBits) : Option String → StatusBits
  | none => s
  | some token =>
      let power :=
        if token = "online" then setOrClear s "!offline"
        else if token = "offline" then setOrClear s "!online"
        else s
      let full :=
        if token = "fullycharged" then setOrClear power "!notfullycharged"
        else if token = "notfullycharged" then setOrClear power "!fullycharged"
        else power
      setOrClear full token

/-- The key of each status bit that has one of its own. -/
def statusKeyNames : List (Option String) :=
  [ none, none, "ups.status.discharging", "ups.status.charging", "ups.status.battery_low",
    "ups.status.overload", "ups.status.replace_battery", "ups.status.shutdown_imminent",
    "ups.status.trim", "ups.status.boost", "ups.status.bypassauto", "ups.status.bypassman",
    "ups.status.ecomode", "ups.status.essmode", "ups.status.off", "ups.status.cal",
    "ups.status.overheat", "ups.status.commfault", "ups.status.depleted",
    "ups.status.remaining_time_limit_expired", none, none, "ups.status.awaitingpower",
    "ups.status.fanfail", "ups.status.no_battery", "ups.status.battvoltlo", "ups.status.battvolthi",
    "ups.status.chargerfail", "ups.status.vrange", "ups.status.frange" ]

/-- Two bits that exclude each other make one key: present with 1 or 0, or absent when both are clear. -/
def pairKey (s : StatusBits) (key : String) (yes no : Nat) : List (String × Option String) :=
  if s.known &&& (statusBit yes ||| statusBit no) ≠ 0 then
    [(key, if s.isSet yes then some "1" else if s.isSet no then some "0" else none)]
  else []

def bitKey (s : StatusBits) (b : Nat) : List (String × Option String) :=
  match statusKeyNames[b]? with
  | some (some key) => if s.isKnown b then [(key, some (if s.isSet b then "1" else "0"))] else []
  | _ => []

/-- The keys of the known bits, with no value for those that must not exist. -/
def statusKeys (s : StatusBits) : List (String × Option String) :=
  pairKey s "ups.status.ac_present" stOnline stOffline
    ++ pairKey s "ups.status.fully_charged" stFullycharged stNotfullycharged
    ++ (List.range statusKeyNames.length).flatMap (bitKey s)

theorem mem_statusKeys {s : StatusBits} {key : String × Option String} (h : key ∈ statusKeys s) :
    key.1 ∈ "ups.status.ac_present" :: "ups.status.fully_charged" :: statusKeyNames.reduceOption := by
  have hpair : ∀ name yes no, key ∈ pairKey s name yes no → key.1 = name := by
    intro name yes no hkey
    unfold pairKey at hkey
    split at hkey
    · rw [List.mem_singleton.mp hkey]
    · exact absurd hkey (by simp)
  unfold statusKeys at h
  rw [List.mem_append, List.mem_append] at h
  rcases h with (hac | hfull) | hbit
  · rw [hpair _ _ _ hac]
    simp
  · rw [hpair _ _ _ hfull]
    simp
  · obtain ⟨b, -, hb⟩ := List.mem_flatMap.mp hbit
    unfold bitKey at hb
    split at hb
    · rename_i name hname
      split at hb
      · rw [List.mem_singleton.mp hb]
        apply List.mem_cons_of_mem
        apply List.mem_cons_of_mem
        rw [List.reduceOption_mem_iff]
        exact List.mem_of_getElem? hname
      · exact absurd hb (by simp)
    · exact absurd hb (by simp)

theorem startsWith_of_mem_statusKeys {s : StatusBits} {key : String × Option String}
    (h : key ∈ statusKeys s) : Lib.Text.startsWith key.1 "ups.status." = true := by
  have hall : ∀ name ∈ "ups.status.ac_present" :: "ups.status.fully_charged" :: statusKeyNames.reduceOption,
      Lib.Text.startsWith name "ups.status." = true := by decide +kernel
  exact hall key.1 (mem_statusKeys h)

/-! ### What a token does to a bit -/

/-- The bit a token clears before it acts on its own. -/
def neutered (token : String) : Option Nat :=
  if token = "online" then some stOffline
  else if token = "offline" then some stOnline
  else if token = "fullycharged" then some stNotfullycharged
  else if token = "notfullycharged" then some stFullycharged
  else none

/-- The value a token gives to a bit, none when it leaves the bit alone. -/
def tokenEffect (token : Option String) (b : Nat) : Option Bool :=
  match token with
  | none => none
  | some text =>
      if (tokenTarget text).map Prod.fst = some b then (tokenTarget text).map Prod.snd
      else if neutered text = some b then some false
      else none

theorem getLsbD_statusBit (b i : Nat) (hi : i < 32) : (statusBit b).getLsbD i = decide (b = i) := by
  unfold statusBit
  rw [Bool.eq_iff_iff]
  simp only [BitVec.getLsbD_shiftLeft, hi, decide_true, Bool.true_and, Bool.and_eq_true,
    Bool.not_eq_true', decide_eq_false_iff_not, BitVec.getLsbD_one, decide_eq_true_eq]
  omega

theorem masked_ne_zero (x : BitVec 32) {b : Nat} (hb : b < 32) :
    decide (x &&& statusBit b ≠ 0) = x.getLsbD b := by
  cases hbit : x.getLsbD b with
  | true =>
      rw [decide_eq_true_eq]
      intro hzero
      have hclear : (x &&& statusBit b).getLsbD b = false := by simp [hzero]
      rw [BitVec.getLsbD_and, hbit, getLsbD_statusBit b b hb] at hclear
      simp at hclear
  | false =>
      rw [decide_eq_false_iff_not, not_not]
      apply BitVec.eq_of_getLsbD_eq
      intro i hi
      rw [BitVec.getLsbD_and, getLsbD_statusBit b i hi]
      by_cases hib : i = b
      · subst hib
        simp [hbit]
      · simp [Ne.symm hib]

theorem isSet_eq (s : StatusBits) {b : Nat} (hb : b < 32) : s.isSet b = s.set.getLsbD b :=
  masked_ne_zero s.set hb

theorem isKnown_eq (s : StatusBits) {b : Nat} (hb : b < 32) : s.isKnown b = s.known.getLsbD b :=
  masked_ne_zero s.known hb

theorem isSet_setOrClear (s : StatusBits) (token : String) {b : Nat} (hb : b < 32) :
    (setOrClear s token).isSet b
      = if (tokenTarget token).map Prod.fst = some b then ((tokenTarget token).map Prod.snd).getD false
        else s.isSet b := by
  rw [isSet_eq _ hb, isSet_eq _ hb]
  unfold setOrClear
  cases htarget : tokenTarget token with
  | none => simp
  | some target =>
      obtain ⟨t, value⟩ := target
      have hbit := getLsbD_statusBit t b hb
      cases value with
      | true =>
          simp only [if_true, BitVec.getLsbD_or, hbit]
          by_cases ht : t = b <;> simp [ht]
      | false =>
          simp only [Bool.false_eq_true, if_false, BitVec.getLsbD_and, BitVec.getLsbD_not, hbit, hb]
          by_cases ht : t = b <;> simp [ht]

theorem isKnown_setOrClear (s : StatusBits) (token : String) {b : Nat} (hb : b < 32) :
    (setOrClear s token).isKnown b
      = (s.isKnown b || decide ((tokenTarget token).map Prod.fst = some b)) := by
  rw [isKnown_eq _ hb, isKnown_eq _ hb]
  unfold setOrClear
  cases htarget : tokenTarget token with
  | none => simp
  | some target =>
      obtain ⟨t, value⟩ := target
      simp only [Option.map_some, Option.some.injEq, BitVec.getLsbD_or, getLsbD_statusBit t b hb]

theorem tokenTarget_notOffline : tokenTarget "!offline" = some (stOffline, false) := by decide
theorem tokenTarget_notOnline : tokenTarget "!online" = some (stOnline, false) := by decide
theorem tokenTarget_notNotfullycharged :
    tokenTarget "!notfullycharged" = some (stNotfullycharged, false) := by decide
theorem tokenTarget_notFullycharged :
    tokenTarget "!fullycharged" = some (stFullycharged, false) := by decide

/-- A token clears the bit it neuters and then acts on its own bit. -/
theorem applyStatusToken_some (s : StatusBits) (token : String) :
    ∃ cleared : StatusBits, applyStatusToken s (some token) = setOrClear cleared token
      ∧ ∀ b < 32, cleared.isSet b = (if neutered token = some b then false else s.isSet b)
          ∧ cleared.isKnown b = (s.isKnown b || decide (neutered token = some b)) := by
  have hclear : ∀ (text : String) (t : Nat), tokenTarget text = some (t, false) →
      ∀ b < 32, (setOrClear s text).isSet b = (if some t = some b then false else s.isSet b)
        ∧ (setOrClear s text).isKnown b = (s.isKnown b || decide (some t = some b)) := by
    intro text t htarget b hb
    rw [isSet_setOrClear s text hb, isKnown_setOrClear s text hb, htarget]
    exact ⟨rfl, rfl⟩
  by_cases h1 : token = "online"
  · subst h1
    exact ⟨_, rfl, hclear "!offline" stOffline tokenTarget_notOffline⟩
  by_cases h2 : token = "offline"
  · subst h2
    exact ⟨_, rfl, hclear "!online" stOnline tokenTarget_notOnline⟩
  by_cases h3 : token = "fullycharged"
  · subst h3
    exact ⟨_, rfl, hclear "!notfullycharged" stNotfullycharged tokenTarget_notNotfullycharged⟩
  by_cases h4 : token = "notfullycharged"
  · subst h4
    exact ⟨_, rfl, hclear "!fullycharged" stFullycharged tokenTarget_notFullycharged⟩
  refine ⟨s, ?_, ?_⟩
  · unfold applyStatusToken
    simp only [h1, h2, h3, h4, if_false]
  · intro b _
    unfold neutered
    simp [h1, h2, h3, h4]

/-- Each bit after a token: the value the token gives it, or the value it had. -/
theorem isSet_applyStatusToken (s : StatusBits) (token : Option String) {b : Nat} (hb : b < 32) :
    (applyStatusToken s token).isSet b = (tokenEffect token b).getD (s.isSet b) := by
  cases token with
  | none => rfl
  | some text =>
      obtain ⟨cleared, happly, hcleared⟩ := applyStatusToken_some s text
      rw [happly, isSet_setOrClear cleared text hb, (hcleared b hb).1, tokenEffect]
      split
      · cases htarget : tokenTarget text with
        | none => simp_all
        | some target => rfl
      · split <;> rfl

theorem isKnown_applyStatusToken (s : StatusBits) (token : Option String) {b : Nat} (hb : b < 32) :
    (applyStatusToken s token).isKnown b = (s.isKnown b || (tokenEffect token b).isSome) := by
  cases token with
  | none => exact (Bool.or_false _).symm
  | some text =>
      obtain ⟨cleared, happly, hcleared⟩ := applyStatusToken_some s text
      rw [happly, isKnown_setOrClear cleared text hb, (hcleared b hb).2, tokenEffect]
      by_cases htarget : (tokenTarget text).map Prod.fst = some b
      · have hsome : ((tokenTarget text).map Prod.snd).isSome = true := by
          cases h : tokenTarget text with
          | none => simp [h] at htarget
          | some target => rfl
        rw [if_pos htarget, hsome]
        simp [htarget]
      · rw [if_neg htarget]
        by_cases hneutered : neutered text = some b <;> simp [htarget, hneutered]

end EspNut.NutTable
