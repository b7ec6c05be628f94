/-
The antennas of simulated channels.

A channel keeps the number of the antenna that was chosen for it, and the number zero stands for
no choice.  An antenna has that number too, though.  Choosing it is accepted, and looks afterwards
as if nothing had been chosen: the channel shows the antenna that is taken without a choice.

`chosen?` reads the choices off the session, where a choice of the antenna number zero and no
choice are told apart.  A look-up answers the choice exactly when it is another antenna.  The
same goes for what a configuration reads back after it has chosen an antenna.
-/
import RadioBench.Proofs.Simulator.Atomicity
import RadioBench.Proofs.Simulator.LastWrite
import RadioBench.Proofs.SmokeTest.Leftover
import RadioBench.Proofs.SmokeTest.ReadBack

namespace RadioBench
namespace Simulator

open Step

variable {s t : State} {d : DeviceHandle} {ch : ChannelId} {listed : List String}
  {deeds : List Deed}

/-! ## Choices -/

/-- The antenna that is chosen for a channel. -/
def Deed.chooses? (d : DeviceHandle) (ch : ChannelId) : Deed → Option Nat
  | .served (.channel d' ch' (.setAntenna index)) (.ok _) =>
    if d' = d ∧ ch' = ch then some index else none
  | _ => none

/-- The antenna that was chosen last for a channel, if one was, after its device was opened and
after it was reset last. -/
def chosen? (d : DeviceHandle) (ch : ChannelId) (deeds : List Deed) : Option Nat :=
  (deeds.reverse.takeWhile fun e => !e.startsAnew d).findSome? (Deed.chooses? d ch)

/-- The antenna that a channel shows after a choice, or after none. -/
def shownAfter : Option Nat → Nat
  | none => 1
  | some index => if index = 0 then 1 else index

theorem Deed.sets?_antenna (d : DeviceHandle) (ch : ChannelId) (e : Deed) :
    e.sets? .antenna d ch = e.chooses? d ch := by
  cases e with
  | served r a =>
    cases r with
    | channel d' ch' c =>
      cases (a : Except Error c.Result) with
      | error e => cases c <;> rfl
      | ok v =>
        cases c with
        | setAntenna index => rfl
        | _ => exact ite_self none
    | _ => rfl
  | _ => rfl

/-- The setting of a channel does not tell the antenna number zero from no choice. -/
theorem written_antenna (d : DeviceHandle) (ch : ChannelId) (deeds : List Deed) :
    written .antenna d ch deeds = (chosen? d ch deeds).getD 0 := by
  rw [written, chosen?, funext (Deed.sets?_antenna d ch)]
  rfl

theorem shownAfter_eq (choice : Option Nat) :
    shownAfter choice = if choice.getD 0 = 0 then 1 else choice.getD 0 := by
  cases choice <;> rfl

theorem chosen?_concat (d : DeviceHandle) (ch : ChannelId) (deeds : List Deed) (e : Deed) :
    chosen? d ch (deeds ++ [e]) =
      if e.startsAnew d then none else (e.chooses? d ch).or (chosen? d ch deeds) := by
  rw [chosen?, List.reverse_append, List.reverse_singleton, List.singleton_append,
    List.takeWhile_cons]
  cases hanew : e.startsAnew d with
  | true => rfl
  | false =>
    simp only [Bool.not_false, if_true, List.findSome?_cons]
    cases e.chooses? d ch <;> rfl

/-- Entries in the journal choose nothing. -/
theorem chosen?_append_noted (entries : List Entry) :
    chosen? d ch (deeds ++ entries.map Deed.noted) = chosen? d ch deeds := by
  induction entries generalizing deeds with
  | nil => simp
  | cons entry rest ih =>
    rw [List.map_cons, List.append_cons, ih, chosen?_concat]
    rfl

/-! ## Looking up and choosing -/

theorem antenna_of_session (h : Session listed deeds s) {v : Nat}
    (hread : channelCall d ch .antenna s = (.ok v, t)) : v = shownAfter (chosen? d ch deeds) := by
  dsimp only [channelCall] at hread
  rcases onDevice_inv hread with ⟨e, he, -⟩ | ⟨hopen, hread⟩
  · cases he
  · cases hread
    have hset : (s.channelState d ch).antenna = (chosen? d ch deeds).getD 0 :=
      (read_of_session h .antenna ch hopen).trans (written_antenna d ch deeds)
    show (s.channelState d ch).shownAntenna = _
    rw [ChannelState.shownAntenna, hset, shownAfter_eq]

/-- What a look-up answers is the choice, unless that has the number that stands for none. -/
theorem shownAfter_some_iff (index : Nat) : shownAfter (some index) = index ↔ index ≠ 0 := by
  rw [shownAfter]
  split <;> omega

/-- Only an open device does what it is asked, and only what was not made to fail. -/
theorem onDevice_of_ok {α : Type} {name : String} {body : Step α} {a : α}
    (h : onDevice name d body s = (.ok a, t)) : d ∈ s.devices ∧ name ∉ s.armed := by
  rcases onDevice_inv h with ⟨e, he, -⟩ | ⟨hopen, -⟩
  · cases he
  rcases attempt_cases h with ⟨-, ⟨e, he⟩, -⟩ | ⟨harmed, -⟩
  · cases he
  · exact ⟨hopen, harmed⟩

/-- A choice is accepted on an open device, unless it was made to fail, if there is such an
antenna. -/
theorem accepted_setAntenna_iff {index : Nat} {a : Except Error Unit}
    (h : channelCall d ch (.setAntenna index) s = (a, t)) :
    a = .ok () ↔ d ∈ s.devices ∧ "set_antenna" ∉ s.armed ∧ index < antennas.length := by
  constructor
  · intro ha
    subst ha
    dsimp only [channelCall] at h
    by_cases hrange : antennas.length ≤ index
    · rw [if_pos hrange] at h
      rcases attempt_cases h with ⟨-, ⟨e, he⟩, -⟩ | ⟨-, hfail⟩
      · cases he
      · cases hfail
    · rw [if_neg hrange] at h
      obtain ⟨hopen, harmed⟩ := onDevice_of_ok h
      exact ⟨hopen, harmed, Nat.lt_of_not_le hrange⟩
  · rintro ⟨hopen, harmed, hrange⟩
    obtain ⟨_, u, hdone, -⟩ := channelCall_succeeds ch (.setAntenna index) hopen harmed hrange
    exact (congrArg Prod.fst (h.symm.trans hdone))

theorem names_of_antennaList (ch : ChannelId) {names : List String}
    (h : channelCall d ch .antennaList s = (.ok names, t)) : names = antennas := by
  dsimp only [channelCall] at h
  rcases onDevice_inv h with ⟨e, he, -⟩ | ⟨-, hdone⟩
  · cases he
  · cases hdone
    rfl

/-! ## Configurations -/

/-- The script of a configuration chooses the antenna and then looks it up. -/
theorem configureScript_eq (h : DeviceHandle) (x : SmokeTest.Settings) (a : SmokeTest.Applied) :
    ∃ front back, SmokeTest.configureScript h x a =
      front ++ .channel h x.channel (.setAntenna x.antenna.index) () ::
        .channel h x.channel .antenna a.antenna :: back := by
  exact ⟨_, _, (List.append_assoc _ [_, _] (_ :: _ :: _)).symm⟩

theorem deeds_of_notes {es : List (Event Host)} (h : ∀ ev ∈ es, ev.isNote = true) :
    ∃ entries : List Entry, es.filterMap deed? = entries.map Deed.noted := by
  induction es with
  | nil => exact ⟨[], rfl⟩
  | cons ev rest ih =>
    obtain ⟨hnote, hrest⟩ := List.forall_mem_cons.mp h
    obtain ⟨entries, hentries⟩ := ih hrest
    obtain ⟨op | op, u⟩ := ev
    · cases hnote
    · cases op with
      | note entry => exact ⟨entry :: entries, congrArg (Deed.noted entry :: ·) hentries⟩
      | _ => cases hnote

/-- What a configuration reads back is what is shown after its own choice. -/
theorem antenna_of_configure (h : Session listed deeds s) {device : Device}
    {x : SmokeTest.Settings} {a : SmokeTest.Applied} {es : List (Event Host)}
    (hes : (SmokeTest.configure device x).run.Yields es (.ok a)) (hpath : Path Runs s es t) :
    a.antenna = shownAfter (some x.antenna.index) := by
  have hscript : effects es = SmokeTest.configureScript device.handle x a :=
    ((SmokeTest.heeds_configure device x).ok es a hes).2
  obtain ⟨front, back, hchoice⟩ := configureScript_eq device.handle x a
  rw [hchoice] at hscript
  -- only entries in the journal stand between the choice and the look-up
  obtain ⟨before, rest, rfl, -, hrest⟩ := List.filter_eq_append_iff.mp hscript
  obtain ⟨notes, later, rfl, -, -, hlater⟩ := List.filter_eq_cons_iff.mp hrest
  obtain ⟨between, after, rfl, hbetween, -, -⟩ := List.filter_eq_cons_iff.mp hlater
  obtain ⟨u, hbefore, hpath⟩ := Path.append_iff.mp hpath
  obtain ⟨v, hnotes, hpath⟩ := Path.append_iff.mp hpath
  obtain ⟨w, hset, hpath⟩ := Path.cons_iff.mp hpath
  obtain ⟨y, hquiet, hpath⟩ := Path.append_iff.mp hpath
  obtain ⟨z, hread, -⟩ := Path.cons_iff.mp hpath
  have hentry : ∀ ev ∈ between, ev.isNote = true := by simpa using hbetween
  obtain ⟨entries, hentries⟩ := deeds_of_notes hentry
  have hsession := session_of_runs (session_of_runs (session_of_runs h hbefore) hnotes)
    (.single hset)
  have hwhole := session_of_runs hsession hquiet
  rw [antenna_of_session hwhole hread, hentries, chosen?_append_noted]
  show shownAfter (chosen? device.handle x.channel (_ ++ [_])) = _
  rw [chosen?_concat]
  show shownAfter ((if _ ∧ _ then some x.antenna.index else none).or _) = _
  rw [if_pos ⟨rfl, rfl⟩, Option.some_or]

/-! ## Sessions -/

/-- What there is to the antennas of all channels after some deeds. -/
structure ShowsChoices (deeds : List Deed) (s : State) : Prop where
  /-- A look-up goes by what was chosen last for just that channel. -/
  shows : ∀ d ch (v : Nat) t,
    Does (.served (.channel d ch .antenna) (.ok v : Except Error Nat)) s t →
      v = shownAfter (chosen? d ch deeds)
  /-- It answers the choice unless that is the antenna number zero. -/
  choice : ∀ d ch (v : Nat) t,
    Does (.served (.channel d ch .antenna) (.ok v : Except Error Nat)) s t →
      ∀ index, chosen? d ch deeds = some index → (v = index ↔ index ≠ 0)
  /-- A look-up is answered, unless it was made to fail. -/
  answers : ∀ d ch, d ∈ s.devices → "antenna" ∉ s.armed → ∃ (v : Nat) (t : State),
    Does (.served (.channel d ch .antenna) (.ok v : Except Error Nat)) s t
  lists : ∀ d ch (names : List String) t,
    Does (.served (.channel d ch .antennaList) (.ok names : Except Error (List String))) s t →
      names = antennas
  accepts : ∀ d ch index (a : Except Error Unit) t,
    Does (.served (.channel d ch (.setAntenna index)) a) s t →
      (a = .ok () ↔ d ∈ s.devices ∧ "set_antenna" ∉ s.armed ∧ index < antennas.length)
  refuses : ∀ d ch index e t,
    Does (.served (.channel d ch (.setAntenna index)) (.error e : Except Error Unit)) s t →
      Unaltered s t
  configures : ∀ (device : Device) (x : SmokeTest.Settings) (a : SmokeTest.Applied) es t,
    (SmokeTest.configure device x).run.Yields es (.ok a) → Path Runs s es t →
      a.antenna = shownAfter (some x.antenna.index) ∧
        (a.antenna = x.antenna.index ↔ x.antenna.index ≠ 0)

/-- Whatever was done on however many devices, a channel shows the antenna that was chosen for it
last, and the first one if it has no choice or one that cannot be told from none. -/
theorem session_showsChoices (h : Session listed deeds s) : ShowsChoices deeds s where
  shows d ch v t hread := antenna_of_session h hread
  choice d ch v t hread index hchosen := by
    rw [antenna_of_session h hread, hchosen]
    exact shownAfter_some_iff index
  answers d ch hopen harmed := by
    obtain ⟨v, t, hread, -⟩ := channelCall_succeeds ch .antenna hopen harmed trivial
    exact ⟨v, t, hread⟩
  lists d ch names t hlist := names_of_antennaList ch hlist
  accepts d ch index a t hset := accepted_setAntenna_iff hset
  refuses d ch index e t hset := by
    have hstate : t = (perform (.channel d ch (.setAntenna index)) s).2 :=
      (congrArg Prod.snd hset).symm
    rw [hstate]
    refine unaltered_of_failed (r := .channel d ch (.setAntenna index)) (e := e) ?_
    rw [show perform (.channel d ch (.setAntenna index)) s = (.error e, t) from hset]
    rfl
  configures device x a es t hes hpath := by
    have hshown : a.antenna = shownAfter (some x.antenna.index) := antenna_of_configure h hes hpath
    exact ⟨hshown, by rw [hshown]; exact shownAfter_some_iff x.antenna.index⟩

/-- On one channel two antennas are chosen and two further choices fail, on another the antenna
number zero is chosen, and a choice on a second device is lost with a reset. -/
def choices : List Deed :=
  [.served (.openDevice "sim") (.ok ⟨0⟩ : Except Error DeviceHandle),
    .served (.openDevice "sim") (.ok ⟨1⟩ : Except Error DeviceHandle),
    .served (.channel ⟨0⟩ ⟨.rx, 0⟩ (.setAntenna 2)) (.ok () : Except Error Unit),
    .served (.channel ⟨0⟩ ⟨.rx, 0⟩ (.setAntenna 3)) (.ok () : Except Error Unit),
    .served (.channel ⟨0⟩ ⟨.rx, 0⟩ (.setAntenna 4))
      (.error (.failed "set_antenna" "no antenna 4") : Except Error Unit),
    .armed "set_antenna",
    .served (.channel ⟨0⟩ ⟨.rx, 0⟩ (.setAntenna 1))
      (.error (.failed "set_antenna" "set_antenna rejected by device") : Except Error Unit),
    .served (.channel ⟨0⟩ ⟨.tx, 0⟩ (.setAntenna 0)) (.ok () : Except Error Unit),
    .served (.channel ⟨1⟩ ⟨.rx, 0⟩ (.setAntenna 2)) (.ok () : Except Error Unit),
    .served (.device ⟨1⟩ .reset) (.ok () : Except Error Unit)]

/-- A smoke test that chooses the antenna number zero. -/
def unconnected : SmokeTest.Settings := { SmokeTest.Settings.standard ⟨[]⟩ with antenna := .none }

/-- The antenna number zero is not shown, neither to a look-up nor to a configuration. -/
theorem choices_showsChoices :
    ∃ s, Session ["sim"] choices s ∧
      (∃ (v : Nat) (t : State), Does (.served (.channel ⟨0⟩ ⟨.rx, 0⟩ .antenna)
        (.ok v : Except Error Nat)) s t ∧ v = 3) ∧
      (∃ (v : Nat) (t : State), Does (.served (.channel ⟨1⟩ ⟨.rx, 0⟩ .antenna)
        (.ok v : Except Error Nat)) s t ∧ v = 1) ∧
      chosen? ⟨0⟩ ⟨.tx, 0⟩ choices = some 0 ∧
      (∃ (v : Nat) (t : State), Does (.served (.channel ⟨0⟩ ⟨.tx, 0⟩ .antenna)
        (.ok v : Except Error Nat)) s t ∧ v = 1 ∧ v ≠ 0) ∧
      ∃ a t, Reaches s (SmokeTest.configure ⟨⟨0⟩, "sim"⟩ unconnected).run (.ok a) t ∧
        a.antenna = 1 ∧ a.antenna ≠ unconnected.antenna.index := by
  have hpath : Session ["sim"] choices _ :=
    .cons rfl <| .cons rfl <| .cons rfl <| .cons rfl <| .cons rfl <| .cons rfl <| .cons rfl <|
      .cons rfl <| .cons rfl <| .cons rfl <| .nil _
  have hconfigured : ∀ u, Session ["sim"] choices u → ⟨0⟩ ∈ u.devices → u.armed = [] →
      ∃ a t, Reaches u (SmokeTest.configure ⟨⟨0⟩, "sim"⟩ unconnected).run (.ok a) t ∧
        a.antenna = 1 ∧ a.antenna ≠ unconnected.antenna.index := by
    intro u hu hopen harmed
    obtain ⟨a, t, ⟨es, hes, hruns⟩, -⟩ :=
      SmokeTest.completes_configure (d := ⟨⟨0⟩, "sim"⟩) (s := unconnected) hopen
        (by rw [harmed]; intro q _; exact List.not_mem_nil) (by decide) u (.refl u)
    obtain ⟨hshown, hsame⟩ := (session_showsChoices hu).configures _ _ a es t hes hruns
    exact ⟨a, t, ⟨es, hes, hruns⟩, hshown, fun heq => hsame.mp heq rfl⟩
  have hshows := session_showsChoices hpath
  refine ⟨_, hpath, ⟨_, _, rfl, ?_⟩, ⟨_, _, rfl, ?_⟩, rfl, ⟨_, _, rfl, ?_, ?_⟩, ?_⟩
  · exact hshows.shows ⟨0⟩ ⟨.rx, 0⟩ _ _ rfl
  · exact hshows.shows ⟨1⟩ ⟨.rx, 0⟩ _ _ rfl
  · exact hshows.shows ⟨0⟩ ⟨.tx, 0⟩ _ _ rfl
  · intro hzero
    exact (hshows.choice ⟨0⟩ ⟨.tx, 0⟩ _ _ rfl 0 rfl).mp hzero rfl
  · exact hconfigured _ hpath (by decide) rfl

end Simulator
end RadioBench
