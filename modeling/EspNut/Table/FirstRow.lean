import EspNut.Table.Resolution

/-!
# The first row wins

A run gives the bound rows values, strings and at some point the end of the first full poll, in any order. The conversions of the run are recorded, so that the row the engine has made active is compared with the first row in table order whose first conversion succeeded.
-/

namespace EspNut.NutTable

open Lib Rounding

structure Session where
  binds : List Bound
  ctx : Context

inductive Event where
  | value (i : Nat) (v : ℚ) (data : Option UPSData)
  | text (i : Nat) (text : String)
  | finish

def Session.step (s : Session) : Event → Session
  | .value i v data =>
      let (binds, ctx) := onValue s.binds i v s.ctx data
      ⟨binds, ctx⟩
  | .text i text => { s with binds := onString s.binds i text }
  | .finish => { s with binds := finishInit s.binds }

/-- The conversion an event makes: the row and what came out. -/
def Session.conversion (s : Session) : Event → Option (Nat × Decoded)
  | .value i v data =>
      match s.binds[i]? with
      | none => none
      | some b => if b.converts then some (i, (convert b.info v s.ctx data).1) else none
  | .text i text =>
      match s.binds[i]? with
      | none => none
      | some b => if b.role = .dead then none else some (i, .ok text)
  | .finish => none

/-- The conversions of a run, in order. -/
def Session.conversions (s : Session) : List Event → List (Nat × Decoded)
  | [] => []
  | event :: events => (s.conversion event).toList ++ (s.step event).conversions events

/-- A conversion that decides its row: the others wait for the next value. -/
def Decoded.decides : Decoded → Bool
  | .ok _ | .fail => true
  | .defer | .clear => false

def Decoded.succeeds : Decoded → Bool
  | .ok _ => true
  | _ => false

def firstConversion (conversions : List (Nat × Decoded)) (k : Nat) : Option Decoded :=
  (conversions.find? fun c => c.1 = k && c.2.decides).map Prod.snd

/-- The row's first conversion succeeded; a row kept by the firmware holds its value from the start. -/
def succeeded (conversions : List (Nat × Decoded)) (k : Nat) (info : HidInfo) : Bool :=
  hasFlag info.hidflags huFlagAbsent || (firstConversion conversions k).any Decoded.succeeds

theorem conversions_snoc (s : Session) (events : List Event) (event : Event) :
    s.conversions (events ++ [event])
      = s.conversions events ++ ((run Session.step s events).conversion event).toList := by
  induction events generalizing s with
  | nil => simp [Session.conversions]
  | cons e events ih =>
      rw [List.cons_append, Session.conversions, ih, run_cons, Session.conversions, List.append_assoc]

theorem firstConversion_append (first second : List (Nat × Decoded)) (k : Nat) :
    firstConversion (first ++ second) k = (firstConversion first k).or (firstConversion second k) := by
  unfold firstConversion
  rw [List.find?_append, Option.map_or]

/-! ### What a step does to a row -/

/-- The results of a row before and after an event. -/
structure RowStep (s : Session) (event : Event) (k : Nat) (b b' : Bound) : Prop where
  info : b'.info = b.info
  converted : ∀ d, s.conversion event = some (k, d) →
    b.role ≠ .dead ∧ b'.first = (b.absorb d).first ∧ b'.deferred = (b.absorb d).deferred
  finished : event = .finish → b'.first = (finishRow b).first ∧ b'.deferred = b.deferred
  kept : event ≠ .finish → (∀ d, s.conversion event ≠ some (k, d)) →
    b'.first = b.first ∧ b'.deferred = b.deferred

theorem RowStep.of_none {s : Session} {event : Event} {k : Nat} {b b' : Bound}
    (hnone : s.conversion event = none) (hevent : event ≠ .finish) (hinfo : b'.info = b.info)
    (hfirst : b'.first = b.first) (hdeferred : b'.deferred = b.deferred) : RowStep s event k b b' where
  info := hinfo
  converted := by
    intro d hd
    rw [hnone] at hd
    exact absurd hd (by simp)
  finished := fun h => absurd h hevent
  kept := fun _ _ => ⟨hfirst, hdeferred⟩

/-- A conversion sets its own row and computes roles at most. -/
theorem RowStep.of_set {s : Session} {event : Event} {i k : Nat} {d : Decoded}
    {b₀ c b' : Bound} (hconv : s.conversion event = some (i, d)) (hevent : event ≠ .finish)
    (hb₀ : s.binds[i]? = some b₀) (hrole : b₀.role ≠ .dead) (hinfo : c.info = b₀.info)
    (hfirst : c.first = (b₀.absorb d).first) (hdeferred : c.deferred = (b₀.absorb d).deferred)
    (hb' : (s.binds.set i c)[k]? = some b') :
    ∃ b, s.binds[k]? = some b ∧ RowStep s event k b b' := by
  rw [List.getElem?_set] at hb'
  by_cases hik : i = k
  · subst hik
    rw [if_pos rfl] at hb'
    split at hb'
    · have hcb : c = b' := Option.some.inj hb'
      subst hcb
      refine ⟨b₀, hb₀, hinfo, ?_, fun h => absurd h hevent, ?_⟩
      · intro e he
        rw [hconv] at he
        obtain ⟨-, rfl⟩ := Prod.mk.inj (Option.some.inj he)
        exact ⟨hrole, hfirst, hdeferred⟩
      · intro _ hnone
        exact absurd hconv (hnone d)
    · exact absurd hb' (by simp)
  · rw [if_neg hik] at hb'
    refine ⟨b', hb', rfl, ?_, fun h => absurd h hevent, fun _ _ => ⟨rfl, rfl⟩⟩
    intro e he
    rw [hconv] at he
    exact absurd (Prod.mk.inj (Option.some.inj he)).1 hik

theorem RowStep.role {s : Session} {event : Event} {k : Nat} {b c b' : Bound}
    (h : RowStep s event k b c) (hb' : b' = { c with role := b'.role }) : RowStep s event k b b' := by
  have hinfo : b'.info = c.info := by rw [hb']
  have hfirst : b'.first = c.first := by rw [hb']
  have hdeferred : b'.deferred = c.deferred := by rw [hb']
  refine ⟨by rw [hinfo, h.info], ?_, ?_, ?_⟩
  · intro d hd
    rw [hfirst, hdeferred]
    exact h.converted d hd
  · intro he
    rw [hfirst, hdeferred]
    exact h.finished he
  · intro he hd
    rw [hfirst, hdeferred]
    exact h.kept he hd

theorem rowStep_value {s : Session} {i k : Nat} {v : ℚ} {data : Option UPSData} {b' : Bound}
    (hb' : (s.step (.value i v data)).binds[k]? = some b') :
    ∃ b, s.binds[k]? = some b ∧ RowStep s (.value i v data) k b b' := by
  have hevent : Event.value i v data ≠ .finish := by simp
  change (onValue s.binds i v s.ctx data).1[k]? = some b' at hb'
  obtain ⟨b, c, hb, hrole, hcase⟩ := onValue_row hb'
  refine ⟨b, hb, ?_⟩
  rcases hcase with ⟨hki, rfl⟩ | ⟨rfl, hconv, rfl⟩ | ⟨rfl, hconv, hc⟩
  · refine RowStep.role ⟨rfl, ?_, fun h => absurd h hevent, fun _ _ => ⟨rfl, rfl⟩⟩ hrole
    intro d hd
    exfalso
    simp only [Session.conversion] at hd
    split at hd
    · exact absurd hd (by simp)
    · split at hd
      · exact hki (Prod.mk.inj (Option.some.inj hd)).1.symm
      · exact absurd hd (by simp)
  · have hdead : b.role ≠ .dead := by
      unfold Bound.converts at hconv
      simp only [Bool.and_eq_true, decide_eq_true_eq] at hconv
      exact hconv.2
    have hconversion : s.conversion (.value k v data) = some (k, (convert b.info v s.ctx data).1) := by
      simp [Session.conversion, hb, hconv]
    refine RowStep.role ⟨by simp, ?_, fun h => absurd h hevent, ?_⟩ hrole
    · intro d hd
      rw [hconversion] at hd
      obtain rfl := (Prod.mk.inj (Option.some.inj hd)).2
      exact ⟨hdead, by simp [absorb_first], by cases (convert b.info v s.ctx data).1 <;> simp [Bound.absorb, Bound.take, Bound.refuse]⟩
    · intro _ hnone
      exact absurd hconversion (hnone _)
  · have hnone : s.conversion (.value k v data) = none := by simp [Session.conversion, hb, hconv]
    have hsame : c.info = b.info ∧ c.first = b.first ∧ c.deferred = b.deferred := by
      rcases hc with rfl | ⟨-, rfl⟩ <;> exact ⟨rfl, rfl, rfl⟩
    exact (RowStep.of_none hnone hevent hsame.1 hsame.2.1 hsame.2.2).role hrole

theorem rowStep_text {s : Session} {i k : Nat} {text : String} {b' : Bound}
    (hb' : (s.step (.text i text)).binds[k]? = some b') :
    ∃ b, s.binds[k]? = some b ∧ RowStep s (.text i text) k b b' := by
  have hevent : Event.text i text ≠ .finish := by simp
  change (onString s.binds i text)[k]? = some b' at hb'
  unfold onString at hb'
  cases hb₀ : s.binds[i]? with
  | none =>
      rw [hb₀] at hb'
      exact ⟨b', hb', RowStep.of_none (by simp [Session.conversion, hb₀]) hevent rfl rfl rfl⟩
  | some b₀ =>
      rw [hb₀] at hb'
      dsimp only at hb'
      split at hb'
      · rename_i hdead
        exact ⟨b', hb', RowStep.of_none (by simp [Session.conversion, hb₀, hdead]) hevent rfl rfl rfl⟩
      · rename_i hdead
        have hconversion : s.conversion (.text i text) = some (i, .ok text) := by
          simp [Session.conversion, hb₀, hdead]
        obtain ⟨c, hc, hrole⟩ := getElem?_of_resolve hb'
        have hinfo : (b₀.take text).info = b₀.info := rfl
        obtain ⟨b, hb, hstep⟩ := RowStep.of_set hconversion hevent hb₀ hdead hinfo rfl rfl hc
        exact ⟨b, hb, hstep.role hrole⟩

theorem rowStep_finish {s : Session} {k : Nat} {b' : Bound}
    (hb' : (s.step .finish).binds[k]? = some b') :
    ∃ b, s.binds[k]? = some b ∧ RowStep s .finish k b b' := by
  obtain ⟨b, hb, hrole⟩ := finishInit_row hb'
  refine ⟨b, hb, RowStep.role ⟨finishRow_info b, ?_, fun _ => ⟨rfl, finishRow_deferred b⟩, ?_⟩ hrole⟩
  · intro d hd
    exact absurd hd (by simp [Session.conversion])
  · intro hne
    exact absurd rfl hne

theorem rowStep {s : Session} {event : Event} {k : Nat} {b' : Bound}
    (hb' : (s.step event).binds[k]? = some b') : ∃ b, s.binds[k]? = some b ∧ RowStep s event k b b' := by
  cases event with
  | value i v data => exact rowStep_value hb'
  | text i text => exact rowStep_text hb'
  | finish => exact rowStep_finish hb'

theorem resolved_step {s : Session} (h : Resolved s.binds) (event : Event) :
    Resolved (s.step event).binds ∧ Advance s.binds (s.step event).binds := by
  cases event with
  | value i v data => exact resolved_onValue h i v s.ctx data
  | text i text => exact resolved_onString h i text
  | finish => exact resolved_finishInit h

/-! ### The results and the conversions of a run -/

/-- The result of a row is that of its first conversion, or a failure at the end of the first poll. -/
def Recorded (conversions : List (Nat × Decoded)) (k : Nat) (b : Bound) : Prop :=
  match b.first with
  | .unread => hasFlag b.info.hidflags huFlagAbsent = false ∧ firstConversion conversions k = none
  | .ok => succeeded conversions k b.info = true
  | .fail => succeeded conversions k b.info = false

theorem succeeded_append {first second : List (Nat × Decoded)} {k : Nat} {info : HidInfo}
    (h : succeeded first k info = true) : succeeded (first ++ second) k info = true := by
  unfold succeeded at *
  rw [firstConversion_append]
  cases hfirst : firstConversion first k with
  | none =>
      rw [hfirst] at h
      simp at h
      simp [h]
  | some d =>
      rw [hfirst] at h
      simpa using h

theorem firstConversion_other {s : Session} {event : Event} {k : Nat}
    (h : ∀ d, s.conversion event ≠ some (k, d)) (conversions : List (Nat × Decoded)) :
    firstConversion (conversions ++ (s.conversion event).toList) k = firstConversion conversions k := by
  rw [firstConversion_append]
  cases hconv : s.conversion event with
  | none => simp [firstConversion]
  | some c =>
      obtain ⟨i, d⟩ := c
      have hik : i ≠ k := by
        rintro rfl
        exact h d hconv
      simp [firstConversion, hik]

theorem firstConversion_own {s : Session} {event : Event} {k : Nat} {d : Decoded}
    (h : s.conversion event = some (k, d)) {conversions : List (Nat × Decoded)}
    (hnone : firstConversion conversions k = none) :
    firstConversion (conversions ++ (s.conversion event).toList) k
      = if d.decides then some d else none := by
  rw [firstConversion_append, hnone, h]
  cases hd : d.decides <;> simp [firstConversion, hd]

theorem Recorded.step {s : Session} {event : Event} {k : Nat} {b b' : Bound}
    {conversions : List (Nat × Decoded)} (h : Recorded conversions k b) (hstep : RowStep s event k b b')
    (hdead : b.first = .fail → b.role = .dead) :
    Recorded (conversions ++ (s.conversion event).toList) k b' := by
  by_cases hconv : ∃ d, s.conversion event = some (k, d)
  · obtain ⟨d, hd⟩ := hconv
    obtain ⟨hrole, hfirst, -⟩ := hstep.converted d hd
    rw [absorb_first] at hfirst
    unfold Recorded at *
    cases hcase : b.first with
    | unread =>
        rw [hcase] at h hfirst
        obtain ⟨habsent, hnone⟩ := h
        have hown := firstConversion_own hd hnone
        rw [hfirst]
        cases d <;> simp_all [succeeded, Decoded.decides, Decoded.succeeds, hstep.info]
    | ok =>
        rw [hcase] at h hfirst
        have hok : b'.first = .ok := by
          rw [hfirst]
          cases d <;> rfl
        rw [hok, hstep.info]
        exact succeeded_append h
    | fail => exact absurd (hdead hcase) hrole
  · have hother : ∀ d, s.conversion event ≠ some (k, d) := fun d hd => hconv ⟨d, hd⟩
    have hsame := firstConversion_other hother conversions
    have hsucceeded : ∀ info, succeeded (conversions ++ (s.conversion event).toList) k info
        = succeeded conversions k info := by
      intro info
      unfold succeeded
      rw [hsame]
    have hfirst : b'.first = b.first ∨ b.first = .unread ∧ b'.first = .fail := by
      by_cases hevent : event = .finish
      · have hfinish := (hstep.finished hevent).1
        unfold finishRow at hfinish
        split at hfinish
        · exact Or.inl hfinish
        · split at hfinish
          · rename_i hunread
            rw [Bool.and_eq_true, decide_eq_true_eq] at hunread
            exact Or.inr ⟨hunread.1, hfinish⟩
          · exact Or.inl hfinish
      · exact Or.inl (hstep.kept hevent hother).1
    unfold Recorded at *
    rw [hsame, hsucceeded, hstep.info]
    rcases hfirst with hfirst | ⟨hunread, hfail⟩
    · rw [hfirst]
      exact h
    · rw [hunread] at h
      rw [hfail]
      obtain ⟨habsent, hnone⟩ := h
      simp [succeeded, habsent, hnone]

/-- Once the first poll is over, only rows that wait are unread. -/
theorem deferred_of_unread {s : Session} {event : Event} {k : Nat} {b b' : Bound}
    (hstep : RowStep s event k b b') (hpub : isPublishedRow b.info = true)
    (h : event = .finish ∨ (b.first = .unread → b.deferred = true)) (hunread : b'.first = .unread) :
    b'.deferred = true := by
  by_cases hevent : event = .finish
  · obtain ⟨hfirst, hdeferred⟩ := hstep.finished hevent
    rw [hdeferred]
    rw [hunread] at hfirst
    unfold finishRow at hfirst
    rw [if_neg (by rw [not_isPublishedRow]; simp [hpub])] at hfirst
    split at hfirst
    · exact absurd hfirst (by simp)
    · rename_i hkept
      simpa [← hfirst] using hkept
  · have hbefore := h.resolve_left hevent
    by_cases hconv : ∃ d, s.conversion event = some (k, d)
    · obtain ⟨d, hd⟩ := hconv
      obtain ⟨-, hfirst, hdeferred⟩ := hstep.converted d hd
      rw [hdeferred]
      rw [hunread, absorb_first] at hfirst
      cases d with
      | ok text => cases hcase : b.first <;> simp [hcase] at hfirst
      | fail => cases hcase : b.first <;> simp [hcase] at hfirst
      | defer => rfl
      | clear => rfl
    · obtain ⟨hfirst, hdeferred⟩ := hstep.kept hevent fun d hd => hconv ⟨d, hd⟩
      rw [hdeferred]
      exact hbefore (by rw [← hfirst, hunread])

/-- What every run keeps. -/
structure Elected (start : Session) (history : List Event) (s : Session) : Prop where
  resolved : Resolved s.binds
  rows : infos s.binds = infos start.binds
  recorded : ∀ (k : Nat) (b : Bound), s.binds[k]? = some b → isPublishedRow b.info = true →
    leads (infos s.binds) b.info.infoType = true → Recorded (start.conversions history) k b
  waits : .finish ∈ history → ∀ (k : Nat) (b : Bound), s.binds[k]? = some b →
    isPublishedRow b.info = true → b.first = .unread → b.deferred = true

theorem Elected.step {start s : Session} {history : List Event} (hs : s = run Session.step start history)
    (h : Elected start history s) (event : Event) :
    Elected start (history ++ [event]) (s.step event) := by
  obtain ⟨hresolved, hadvance⟩ := resolved_step h.resolved event
  have hrows : infos (s.step event).binds = infos s.binds := hadvance.infos_eq
  refine ⟨hresolved, hrows.trans h.rows, ?_, ?_⟩
  · intro k b' hb' hpub hlead
    obtain ⟨b, hb, hstep⟩ := rowStep hb'
    rw [hstep.info] at hpub
    rw [hrows, hstep.info] at hlead
    rw [conversions_snoc, ← hs]
    exact (h.recorded k b hb hpub hlead).step hstep (dead_of_fail h.resolved hb hpub hlead)
  · intro hfinish k b' hb' hpub hunread
    obtain ⟨b, hb, hstep⟩ := rowStep hb'
    rw [hstep.info] at hpub
    refine deferred_of_unread hstep hpub ?_ hunread
    rcases List.mem_append.mp hfinish with hbefore | hnow
    · exact Or.inr (h.waits hbefore k b hb hpub)
    · exact Or.inl (List.mem_singleton.mp hnow).symm

theorem elected_start {binds : List Bound} (h : ∀ b ∈ binds, Fresh b) (ctx : Context) :
    Elected ⟨resolve binds, ctx⟩ [] ⟨resolve binds, ctx⟩ := by
  refine ⟨(waiting_of_fresh h).resolved_resolve, rfl, ?_, by simp⟩
  intro k b hb _ _
  obtain ⟨c, hc, hrole⟩ := getElem?_of_resolve hb
  obtain ⟨hfirst, -⟩ := (h c (List.mem_of_getElem? hc)).spec
  rw [hrole]
  unfold Recorded
  dsimp only
  rw [hfirst]
  by_cases habsent : hasFlag c.info.hidflags huFlagAbsent = true
  · simp [habsent, succeeded]
  · simp [habsent, firstConversion, Session.conversions]

theorem elected_run {binds : List Bound} (h : ∀ b ∈ binds, Fresh b) (ctx : Context) (events : List Event) :
    Elected ⟨resolve binds, ctx⟩ events (run Session.step ⟨resolve binds, ctx⟩ events) := by
  induction events using List.reverseRecOn with
  | nil => exact elected_start h ctx
  | append_singleton history event ih =>
      rw [run_snoc]
      exact ih.step rfl event

/-! ### The active row -/

/-- The rule of the first row, for the rows of one name after a run. -/
structure FirstRowWins (start : Session) (events : List Event) (name : String) : Prop where
  unique : ∀ (i j : Nat) (a b : Bound),
    (run Session.step start events).binds[i]? = some a →
    (run Session.step start events).binds[j]? = some b →
    publishes a.info name = true → publishes b.info name = true →
    a.role = .active → b.role = .active → i = j
  result : ∀ (i : Nat) (a : Bound), (run Session.step start events).binds[i]? = some a →
    publishes a.info name = true →
    (a.first = .ok ↔ succeeded (start.conversions events) i a.info = true)
  first : ∀ (i : Nat) (a : Bound), (run Session.step start events).binds[i]? = some a →
    publishes a.info name = true →
    (a.role = .active ↔ a.first = .ok ∧ ∀ (j : Nat) (b : Bound), j < i →
      (run Session.step start events).binds[j]? = some b → publishes b.info name = true →
      b.first = .fail)
  absorbing : ∀ (event : Event) (i : Nat) (a a' : Bound),
    (run Session.step start events).binds[i]? = some a →
    (run Session.step start (events ++ [event])).binds[i]? = some a' →
    publishes a.info name = true → a.role ≠ .pending → a'.role = a.role
  settled : .finish ∈ events →
    (∀ (i : Nat) (a : Bound), (run Session.step start events).binds[i]? = some a →
      publishes a.info name = true → a.deferred = false) →
    ∀ (i : Nat) (a : Bound), (run Session.step start events).binds[i]? = some a →
      publishes a.info name = true →
      (a.role = .active ↔ succeeded (start.conversions events) i a.info = true ∧
        ∀ (j : Nat) (b : Bound), j < i → (run Session.step start events).binds[j]? = some b →
          publishes b.info name = true →
          succeeded (start.conversions events) j b.info = false)

/-- The first bound row of the name, if any row publishes it, is neither an internal nor a command row. -/
def Unshadowed (binds : List Bound) (name : String) : Prop :=
  (∃ b ∈ binds, publishes b.info name = true) → leads (infos binds) name = true

theorem first_row_wins {binds : List Bound} (hfresh : ∀ b ∈ binds, Fresh b) (ctx : Context)
    {name : String} (hshadow : Unshadowed binds name) (events : List Event) :
    FirstRowWins ⟨resolve binds, ctx⟩ events name := by
  have hrun := elected_run hfresh ctx events
  generalize hs : run Session.step ⟨resolve binds, ctx⟩ events = s at hrun
  have hlead : ∀ {i : Nat} {a : Bound}, s.binds[i]? = some a → publishes a.info name = true →
      leads (infos s.binds) name = true := by
    intro i a ha hpub
    rw [hrun.rows, infos_resolve]
    apply hshadow
    have hinfo : a.info ∈ infos binds := by
      rw [← infos_resolve, ← show infos s.binds = infos (resolve binds) from hrun.rows]
      exact List.mem_map.mpr ⟨a, List.mem_of_getElem? ha, rfl⟩
    obtain ⟨b, hb, hba⟩ := List.mem_map.mp hinfo
    exact ⟨b, hb, by rw [hba]; exact hpub⟩
  have hresult : ∀ (i : Nat) (a : Bound), s.binds[i]? = some a → publishes a.info name = true →
      Recorded ((⟨resolve binds, ctx⟩ : Session).conversions events) i a := by
    intro i a ha hpub
    have hl := hlead ha hpub
    obtain ⟨hpublished, hname⟩ := publishes_iff.mp hpub
    exact hrun.recorded i a ha hpublished (by rw [hname]; exact hl)
  have hok : ∀ (i : Nat) (a : Bound), s.binds[i]? = some a → publishes a.info name = true →
      (a.first = .ok ↔ succeeded ((⟨resolve binds, ctx⟩ : Session).conversions events) i a.info = true) := by
    intro i a ha hpub
    have := hresult i a ha hpub
    unfold Recorded at this
    cases hfirst : a.first <;> simp_all [succeeded]
  refine ⟨?_, ?_, ?_, ?_, ?_⟩
  · rw [hs]
    intro i j a b ha hb hpa hpb hactive hactive'
    obtain ⟨hpa', hna⟩ := publishes_iff.mp hpa
    obtain ⟨hpb', hnb⟩ := publishes_iff.mp hpb
    exact eq_of_active hrun.resolved ha hb hpa' hpb' (hna.trans hnb.symm) hactive hactive'
  · rw [hs]
    exact hok
  · rw [hs]
    intro i a ha hpub
    exact active_iff hrun.resolved (hlead ha hpub) ha hpub
  · intro event i a a' ha ha' hpub hrole
    rw [run_snoc, hs] at ha'
    rw [hs] at ha
    obtain ⟨hresolved, hadvance⟩ := resolved_step hrun.resolved event
    exact role_stable hrun.resolved hresolved hadvance ha ha' (publishes_iff.mp hpub).1 hrole
  · rw [hs]
    intro hfinish hdeferred i a ha hpub
    have hread : ∀ (j : Nat) (b : Bound), s.binds[j]? = some b → publishes b.info name = true →
        b.first ≠ .unread := by
      intro j b hb hpubb hunread
      have hwait := hrun.waits hfinish j b hb (publishes_iff.mp hpubb).1 hunread
      rw [hdeferred j b hb hpubb] at hwait
      exact absurd hwait (by decide)
    rw [active_iff hrun.resolved (hlead ha hpub) ha hpub, hok i a ha hpub]
    apply and_congr_right
    intro _
    constructor
    · intro hall j b hji hb hpubb
      have hfail := hall j b hji hb hpubb
      rw [Bool.eq_false_iff, ne_eq, ← hok j b hb hpubb, hfail]
      decide
    · intro hall j b hji hb hpubb
      have hne : b.first ≠ .ok := by
        rw [ne_eq, hok j b hb hpubb, hall j b hji hb hpubb]
        decide
      have hne' := hread j b hb hpubb
      cases hcase : b.first with
      | unread => exact absurd hcase hne'
      | ok => exact absurd hcase hne
      | fail => rfl

/-- A name whose first row does not publish it never gets an active row, even once a string was read for it. -/
theorem not_first_row_wins {binds : List Bound} (hfresh : ∀ b ∈ binds, Fresh b) (ctx : Context)
    {name : String} (hshadow : ¬Unshadowed binds name) :
    ∃ events, ¬FirstRowWins ⟨resolve binds, ctx⟩ events name := by
  unfold Unshadowed at hshadow
  rw [Classical.not_imp] at hshadow
  obtain ⟨⟨b, hb, hpub⟩, hlead⟩ := hshadow
  obtain ⟨p, hp⟩ := List.getElem?_of_mem hb
  obtain ⟨hpublished, hname⟩ := publishes_iff.mp hpub
  refine ⟨[.text p "", .finish], fun hwins => ?_⟩
  have hrun := elected_run hfresh ctx [.text p "", .finish]
  generalize hs : run Session.step ⟨resolve binds, ctx⟩ [.text p "", .finish] = s at hrun
  have hrows : infos s.binds = infos binds := hrun.rows.trans (infos_resolve binds)
  have hpending : ∀ (i : Nat) (a : Bound), s.binds[i]? = some a → publishes a.info name = true →
      a.role = .pending := by
    intro i a ha hpuba
    obtain ⟨hpa, hna⟩ := publishes_iff.mp hpuba
    have := hrun.resolved i a ha hpa
    rwa [hrows, hna, if_neg hlead] at this
  have hstart : (resolve binds)[p]? = some b := by
    rw [getElem?_resolve, hp]
    simp [hname, hlead]
  have hdead : b.role ≠ .dead := by
    obtain ⟨-, -, hrole, -⟩ := (hfresh b hb).spec
    rw [hrole]
    split <;> decide
  have hconversions : (⟨resolve binds, ctx⟩ : Session).conversions [.text p "", .finish]
      = [(p, .ok "")] := by
    simp [Session.conversions, Session.conversion, hstart, hdead]
  have hdeferred : ∀ (i : Nat) (a : Bound), s.binds[i]? = some a → publishes a.info name = true →
      a.deferred = false := by
    intro i a ha _
    rw [← hs, run_cons, run_cons, run_nil] at ha
    obtain ⟨a₁, ha₁, hstep₁⟩ := rowStep ha
    obtain ⟨a₀, ha₀, hstep₀⟩ := rowStep ha₁
    obtain ⟨c, hc, hrole⟩ := getElem?_of_resolve ha₀
    obtain ⟨-, -, -, hfreshDeferred, -⟩ := (hfresh c (List.mem_of_getElem? hc)).spec
    have hdeferred₀ : a₀.deferred = false := by
      rw [hrole]
      exact hfreshDeferred
    rw [(hstep₁.finished rfl).2]
    by_cases hconv : ∃ d, (⟨resolve binds, ctx⟩ : Session).conversion (.text p "") = some (i, d)
    · obtain ⟨d, hd⟩ := hconv
      have htext : d = .ok "" := by
        have hpair : some (p, Decoded.ok "") = some (i, d) := by
          rw [← hd]
          simp [Session.conversion, hstart, hdead]
        exact (Prod.mk.inj (Option.some.inj hpair)).2.symm
      rw [(hstep₀.converted d hd).2.2, htext]
      rfl
    · rw [(hstep₀.kept (by simp) fun d hd => hconv ⟨d, hd⟩).2, hdeferred₀]
  have hnone : ∀ (i : Nat) (a : Bound), s.binds[i]? = some a → publishes a.info name = true →
      succeeded [(p, Decoded.ok "")] i a.info = false := by
    intro i
    induction i using Nat.strongRecOn with
    | ind i ih =>
        intro a ha hpuba
        by_contra hsucceeded
        have hactive : a.role = .active := by
          have hsettled := hwins.settled (by simp)
          rw [hs, hconversions] at hsettled
          exact (hsettled hdeferred i a ha hpuba).mpr
            ⟨by simpa using hsucceeded, fun j c hji hj hpubc => ih j hji c hj hpubc⟩
        rw [hpending i a ha hpuba] at hactive
        exact absurd hactive (by decide)
  have hlast : ∃ a, s.binds[p]? = some a ∧ a.info = b.info := by
    have hinfo : (infos s.binds)[p]? = some b.info := by
      rw [hrows]
      simp [infos, hp]
    unfold infos at hinfo
    rw [List.getElem?_map] at hinfo
    obtain ⟨a, ha, hab⟩ := Option.map_eq_some_iff.mp hinfo
    exact ⟨a, ha, hab⟩
  obtain ⟨a, ha, hinfo⟩ := hlast
  have := hnone p a ha (by rw [hinfo]; exact hpub)
  simp [succeeded, firstConversion, Decoded.decides, Decoded.succeeds] at this

/-- In every run after `bind` the first row of a name wins, exactly when no row that cannot publish it comes first. -/
theorem first_row_wins_iff (table : List HidInfo) (usages : List HIDUsageDef) (ctx : Context)
    (name : String) :
    (∀ events, FirstRowWins ⟨bind table usages, ctx⟩ events name)
      ↔ Unshadowed (bindRows table usages []) name := by
  have hfresh : ∀ b ∈ bindRows table usages [], Fresh b := fun b hb => fresh_bindRows hb
  constructor
  · intro hall
    by_contra hshadow
    obtain ⟨events, hnot⟩ := not_first_row_wins hfresh ctx hshadow
    exact hnot (hall events)
  · intro hshadow events
    exact first_row_wins hfresh ctx hshadow events

/-- A command row and a row that publishes, of one name. -/
def shadowedTable : List HidInfo :=
  [ { infoType := "battery.charge.low", infoFlags := 0, infoLen := 0,
      hidpath := some "UPS.PowerSummary.RemainingCapacityLimit", dfl := some "10",
      hidflags := huTypeCmd, conv := .number, lkp := [] },
    { infoType := "battery.charge.low", infoFlags := 0, infoLen := 0,
      hidpath := some "UPS.PowerSummary.RemainingCapacityLimit", dfl := some "%.0f",
      hidflags := 0, conv := .number, lkp := [] } ]

def shadowedUsages : List HIDUsageDef :=
  [ { usage := 0x00850029, reportId := 1, reportType := 3, bitOffset := 0, bitSize := 8,
      found := true, logicalMin := 0, logicalMax := 100, exponent := 0, unit := 0,
      path := "UPS.PowerSummary.RemainingCapacityLimit", collIndex := [0, 0, 0, 0, 0, 0, 0, 0] } ]

def shadowedSession : Session := ⟨bind shadowedTable shadowedUsages, Context.initial⟩

/-- The value of the second row is read and converted, the poll ends, and no row is active. -/
theorem shadowed_row_never_wins :
    ¬FirstRowWins shadowedSession [.value 1 10 none, .finish] "battery.charge.low" := by
  intro hwins
  have hrows : (run Session.step shadowedSession [.value 1 10 none, .finish]).binds.map
      (fun b => (publishes b.info "battery.charge.low", b.role, b.deferred, b.info.hidflags))
        = [(false, .pending, false, huTypeCmd), (true, .pending, false, 0)] := by decide +kernel
  have hconversions : shadowedSession.conversions [.value 1 10 none, .finish] = [(1, .ok "10")] := by
    decide +kernel
  have hsettled := hwins.settled (by simp)
  rw [hconversions] at hsettled
  generalize run Session.step shadowedSession [.value 1 10 none, .finish] = s at hrows hsettled
  obtain ⟨b₀, rest, hbinds, hb₀, hrest⟩ := List.map_eq_cons_iff.mp hrows
  obtain ⟨b₁, last, rfl, hb₁, hlast⟩ := List.map_eq_cons_iff.mp hrest
  rw [List.map_eq_nil_iff] at hlast
  subst hlast
  rw [hbinds] at hsettled
  simp only [Prod.mk.injEq] at hb₀ hb₁
  have hdeferred : ∀ (i : Nat) (a : Bound), [b₀, b₁][i]? = some a →
      publishes a.info "battery.charge.low" = true → a.deferred = false := by
    intro i a ha _
    rcases List.mem_pair.mp (List.mem_of_getElem? ha) with rfl | rfl
    · exact hb₀.2.2.1
    · exact hb₁.2.2.1
  have hactive := (hsettled hdeferred 1 b₁ rfl hb₁.1).mpr ⟨by
    simp [succeeded, firstConversion, Decoded.decides, Decoded.succeeds], by
    intro j b hj hb hpub
    obtain rfl : j = 0 := by omega
    obtain rfl : b₀ = b := Option.some.inj hb
    rw [hb₀.1] at hpub
    exact absurd hpub (by decide)⟩
  rw [hb₁.2.1] at hactive
  exact absurd hactive (by decide)

end EspNut.NutTable
