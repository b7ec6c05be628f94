/-
Sample rates reported.

A rate is set on a device, either for both directions or for one of them.  The simulator keeps the
rate that came last and nothing of the device or the direction, so that every open device reports
it for every channel.  `report_of_effect` says what one deed does to the report, and
`session_sharesRate` what is reported after a session.

Whether the report is about the device and the direction that were asked for depends on the
rating that came last alone: it is exactly when that one was meant for them.
-/
import RadioBench.Proofs.Simulator.Effect

namespace RadioBench
namespace Simulator

variable {s t : State} {e : Deed}

/-! ## Ratings -/

/-- A rate that was set on a device. -/
structure Rating where
  device : DeviceHandle
  /-- The direction that it is meant for, if it is not for both. -/
  direction : Option Direction
  rate : Float
  oversample : Nat

/-- The rate is meant for a direction of a device. -/
def Rating.Concerns (d : DeviceHandle) (direction : Direction) (x : Rating) : Prop :=
  x.device = d ∧ (x.direction = none ∨ x.direction = some direction)

instance (d : DeviceHandle) (direction : Direction) :
    DecidablePred (Rating.Concerns d direction) := fun _ => inferInstanceAs (Decidable (_ ∧ _))

/-- The report of a rate.  No oversampling is the same as an oversampling by one. -/
def Rating.report (x : Rating) : SampleRate :=
  ⟨x.rate, x.rate * (max x.oversample 1).toUInt64.toFloat⟩

/-- What a simulator reports when it is asked for a rate. -/
def State.rateReport (s : State) : SampleRate :=
  ⟨s.sampleRate, s.sampleRate * s.oversample.toUInt64.toFloat⟩

/-- The report of the rate that was set, or of the one that there is to begin with. -/
def reportOf (x : Option Rating) : SampleRate :=
  (x.map Rating.report).getD (State.start []).rateReport

def Deed.rating? : Deed → Option Rating
  | .served (.device d (.setSampleRate rate oversample)) (.ok _) => some ⟨d, none, rate, oversample⟩
  | .served (.device d (.setSampleRateDir direction rate oversample)) (.ok _) =>
    some ⟨d, some direction, rate, oversample⟩
  | _ => none

/-- The rates that were set, in order. -/
def ratings (deeds : List Deed) : List Rating := deeds.filterMap Deed.rating?

/-- The rate that was set last, on any device and for any direction. -/
def lastRating (deeds : List Deed) : Option Rating := (ratings deeds).getLast?

/-- The rate that was set last of those that are meant for a direction of a device. -/
def ownRating (d : DeviceHandle) (direction : Direction) (deeds : List Deed) : Option Rating :=
  ((ratings deeds).filter (Rating.Concerns d direction ·)).getLast?

/-- The last of the chosen ones is the last of all exactly when that one is chosen. -/
theorem getLast?_eq_getLast?_filter_iff {α : Type} (p : α → Bool) (xs : List α) :
    xs.getLast? = (xs.filter p).getLast? ↔ ∀ x, xs.getLast? = some x → p x = true := by
  rcases List.eq_nil_or_concat xs with rfl | ⟨front, last, rfl⟩
  · simp
  have hlast : (front.concat last).getLast? = some last := by simp
  constructor
  · intro heq x hx
    have hmem : x ∈ (front.concat last).filter p :=
      List.mem_of_getLast? (heq.symm.trans hx)
    exact (List.mem_filter.mp hmem).2
  · intro h
    rw [hlast, List.concat_eq_append, List.filter_append, List.filter_cons_of_pos (h last hlast)]
    simp

/-- The device and the direction have the last rate for their own exactly when it was meant for
them, or when there is none. -/
theorem lastRating_eq_ownRating_iff (d : DeviceHandle) (direction : Direction)
    (deeds : List Deed) :
    lastRating deeds = ownRating d direction deeds ↔
      ∀ x, lastRating deeds = some x → x.Concerns d direction := by
  have h := getLast?_eq_getLast?_filter_iff (Rating.Concerns d direction ·) (ratings deeds)
  simp only [decide_eq_true_eq] at h
  exact h

/-! ## One deed -/

/-- Where nothing comes of a deed, no rate is set. -/
theorem rates_nothing (h : e.Quiet) : e.rating? = none := by
  cases e with
  | served r a =>
    cases r with
    | device d c =>
      cases (a : Except Error c.Result) with
      | error e => cases c <;> rfl
      | ok v =>
        rcases h with hidle | ⟨e, hfailed⟩
        · cases c <;> first | rfl | cases hidle
        · cases hfailed
    | _ => rfl
  | _ => rfl

theorem report_of_effect (h : Effect s e t) :
    t.rateReport = (e.rating?.map Rating.report).getD s.rateReport := by
  cases h with
  | quiet hquiet ht =>
    rw [rates_nothing hquiet, State.rateReport, ht.unaltered.sampleRate, ht.unaltered.oversample]
    rfl
  | _ => rfl

/-! ## Sessions -/

variable {listed : List String} {deeds : List Deed}

theorem report_of_session (h : Session listed deeds s) :
    s.rateReport = reportOf (lastRating deeds) := by
  refine Path.recorded (P := fun deeds s => s.rateReport = reportOf (lastRating deeds)) h rfl ?_
  intro past e u t _ he ih
  rw [report_of_effect (effect_of_does he), lastRating, ratings, List.filterMap_append]
  cases hrating : e.rating? with
  | none => simp [hrating, ih, lastRating, ratings]
  | some x => simp [hrating, reportOf]

/-- How far the rates of devices and directions are kept apart. -/
structure SharesRate (deeds : List Deed) (s : State) : Prop where
  /-- What a device reports for a channel is what was set last on any device. -/
  report : ∀ d ch (a : SampleRate) t,
    Does (.served (.channel d ch .sampleRate) (.ok a : Except Error SampleRate)) s t →
      a = reportOf (lastRating deeds)
  /-- It is what was set last for that device and direction if that came last of all. -/
  own : ∀ d ch (a : SampleRate) t,
    Does (.served (.channel d ch .sampleRate) (.ok a : Except Error SampleRate)) s t →
      (∀ x, lastRating deeds = some x → x.Concerns d ch.direction) →
        a = reportOf (ownRating d ch.direction deeds)
  /-- Otherwise it is about another device or another direction. -/
  other : ∀ d direction x, lastRating deeds = some x → ¬ x.Concerns d direction →
    ownRating d direction deeds ≠ some x

theorem session_sharesRate (h : Session listed deeds s) : SharesRate deeds s := by
  have hreport : ∀ d ch (a : SampleRate) t,
      Does (.served (.channel d ch .sampleRate) (.ok a : Except Error SampleRate)) s t →
        a = reportOf (lastRating deeds) := by
    intro d ch a t he
    rcases onDevice_inv (r := (.ok a : Except Error SampleRate)) he with ⟨e, he, -⟩ | ⟨-, he⟩
    · cases he
    · cases he
      show s.rateReport = reportOf (lastRating deeds)
      exact report_of_session h
  exact {
    report := hreport
    own := by
      intro d ch a t he hown
      rw [← (lastRating_eq_ownRating_iff d ch.direction deeds).mpr hown]
      exact hreport d ch a t he
    other := by
      intro d direction x hlast hother hown
      have heq : lastRating deeds = ownRating d direction deeds := hlast.trans hown.symm
      exact hother ((lastRating_eq_ownRating_iff d direction deeds).mp heq x hlast) }

/-- Two devices are open, and rates are set on one for both directions and on the other for one. -/
def crosstalk : List Deed :=
  [.served (.openDevice "near") (.ok ⟨0⟩ : Except Error DeviceHandle),
    .served (.openDevice "far") (.ok ⟨1⟩ : Except Error DeviceHandle),
    .served (.device ⟨0⟩ (.setSampleRate 21e6 0)) (.ok () : Except Error Unit),
    .served (.device ⟨1⟩ (.setSampleRateDir .tx 5e6 4)) (.ok () : Except Error Unit)]

/-- The first device then reports the rate of the second. -/
theorem crosstalk_sharesRate :
    ∃ s, Session ["near", "far"] crosstalk s ∧
      (∃ t a, Does (.served (.channel ⟨0⟩ ⟨.rx, 0⟩ .sampleRate)
        (.ok a : Except Error SampleRate)) s t ∧ a = (⟨⟨1⟩, some .tx, 5e6, 4⟩ : Rating).report) ∧
      ownRating ⟨0⟩ .rx crosstalk = some ⟨⟨0⟩, none, 21e6, 0⟩ ∧
      ownRating ⟨0⟩ .rx crosstalk ≠ some ⟨⟨1⟩, some .tx, 5e6, 4⟩ := by
  have hpath : Session ["near", "far"] crosstalk _ :=
    .cons rfl <| .cons rfl <| .cons rfl <| .cons rfl <| .nil _
  have hshares := session_sharesRate hpath
  refine ⟨_, hpath, ⟨_, _, rfl, ?_⟩, rfl, ?_⟩
  · exact hshares.report ⟨0⟩ ⟨.rx, 0⟩ _ _ rfl
  · exact hshares.other ⟨0⟩ .rx _ rfl (by decide)

end Simulator
end RadioBench
