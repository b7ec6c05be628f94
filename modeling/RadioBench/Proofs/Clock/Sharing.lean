/-
Clocks that share their time.

A clock is made on its own, or it is shared from another clock and may be shared further.  The one
that it comes from in the end is its origin.  The deeds alone tell what it is, and `origin` follows
a clock back through them.

A clock shows how far the clocks of its origin have been advanced, all of them together.  Which of
them was told to advance plays no part, nor whether that was before a clock was shared or after.
`Tracked` says so of a bank and the deeds that led to it, and is kept by every deed.

The sum of what was advanced after some time is what a stopwatch shows that was started then.
-/
import Mathlib.Algebra.GroupWithZero.Nat
import Mathlib.Logic.Relation
import RadioBench.Clock.Bank
import RadioBench.Proofs.Prog.Path

namespace RadioBench
namespace Clock

variable {b b' : Bank} {c p r : Nat} {span reading : Duration}

/-! ## Banks -/

namespace Bank

theorem now?_of_shown_none (h : b.shown[c]? = none) : b.now? c = none := by rw [now?, h]; rfl

/-- A new clock gets a number and a cell that were not there. -/
theorem new_spec (h : b.new = (c, b')) :
    b.shown[c]? = none ∧
      (∀ x, b'.shown[x]? = if x = c then some b.cells.size else b.shown[x]?) ∧
      b'.now? c = some .zero ∧ ∀ x d, b.now? x = some d → b'.now? x = some d := by
  obtain ⟨rfl, rfl⟩ := Prod.mk.inj h
  refine ⟨by simp, fun x => Array.getElem?_push, ?_, fun x d hx => ?_⟩
  · simp [now?]
  · obtain ⟨cell, hcell, hd⟩ := Option.bind_eq_some_iff.mp hx
    have hin : cell < b.cells.size := (Array.getElem?_eq_some_iff.mp hd).1
    have hlt : x < b.shown.size := (Array.getElem?_eq_some_iff.mp hcell).1
    rw [now?, Array.getElem?_push, if_neg (Nat.ne_of_lt hlt), hcell, Option.bind_some,
      Array.getElem?_push, if_neg (Nat.ne_of_lt hin)]
    exact hd

/-- A clock that is shared is the other clock under a new number. -/
theorem share_spec (h : b.share? p = some (c, b')) :
    b.shown[c]? = none ∧ b.shown[p]? ≠ none ∧
      (∀ x, b'.shown[x]? = b.shown[if x = c then p else x]?) ∧ b'.cells = b.cells := by
  obtain ⟨cell, hcell, heq⟩ := Option.map_eq_some_iff.mp h
  obtain ⟨rfl, rfl⟩ := Prod.mk.inj heq
  refine ⟨by simp, by simp [hcell], fun x => ?_, rfl⟩
  rw [Array.getElem?_push]
  split
  · exact hcell.symm
  · rfl

theorem now?_of_share (h : b.share? p = some (c, b')) (x : Nat) :
    b'.now? x = b.now? (if x = c then p else x) := by
  obtain ⟨-, -, hshown, hcells⟩ := share_spec h
  rw [now?, hshown, hcells]
  rfl

/-- The clocks that show the same cell move along, and no others do. -/
theorem advance_spec (h : b.advance c span = .to b') :
    ∃ reading later, b.now? c = some reading ∧ reading.add? span = some later ∧
      b'.shown = b.shown ∧
      ∀ x, b'.now? x = if b.shown[x]? = b.shown[c]? then some later else b.now? x := by
  unfold advance at h
  split at h
  · cases h
  next cell hcell =>
  split at h
  · cases h
  next reading hreading =>
  split at h
  · cases h
  next later hlater =>
  cases h
  refine ⟨reading, later, by rw [now?, hcell]; exact hreading, hlater, rfl, fun x => ?_⟩
  have hin : cell < b.cells.size := (Array.getElem?_eq_some_iff.mp hreading).1
  rw [hcell, now?, now?]
  cases hx : b.shown[x]? with
  | none => rfl
  | some cell' =>
    simp only [Option.bind_some, Option.some.injEq]
    split
    · next heq =>
      subst heq
      simp [hin]
    · next hne => exact Array.getElem?_setIfInBounds_ne fun heq => hne heq.symm

/-- An attempt to go too far leaves the bank as it was. -/
theorem eq_of_advance_tooFar (h : b.advance c span = .tooFar b') : b' = b := by
  unfold advance at h
  split at h
  · cases h
  next cell hcell =>
  split at h
  · cases h
  next reading hreading =>
  split at h
  · exact (Moved.tooFar.inj h).symm
  · cases h

/-- A clock that there is advances unless the sum is too long. -/
theorem advance_of_now (h : b.now? c = some reading) :
    ((∃ b', b.advance c span = .tooFar b') ↔
        Duration.limit.nanos < reading.nanos + span.nanos) ∧
      (reading.nanos + span.nanos ≤ Duration.limit.nanos → ∃ b', b.advance c span = .to b') := by
  obtain ⟨cell, hcell, hreading⟩ := Option.bind_eq_some_iff.mp h
  rw [← Duration.add?_eq_none_iff]
  simp only [advance, hcell, hreading]
  cases hsum : reading.add? span with
  | none =>
    have hlong := (Duration.add?_eq_none_iff reading span).mp hsum
    exact ⟨by simp, fun hshort => absurd hlong (Nat.not_lt.mpr hshort)⟩
  | some later => exact ⟨by simp, fun _ => ⟨_, rfl⟩⟩

end Bank

/-! ## Deeds -/

/-- What is done with clocks, and what came of it. -/
inductive Deed
  | made (c : Nat)
  /-- The clock `c` was shared from another. -/
  | shared (c parent : Nat)
  | advanced (c : Nat) (span : Duration)
  /-- The clock could not be advanced so far. -/
  | refused (c : Nat) (span : Duration)
  | seen (c : Nat) (reading : Duration)

def Does : Deed → Bank → Bank → Prop
  | .made c, b, b' => b.new = (c, b')
  | .shared c parent, b, b' => b.share? parent = some (c, b')
  | .advanced c span, b, b' => b.advance c span = .to b'
  | .refused c span, b, b' => b.advance c span = .tooFar b'
  | .seen c reading, b, b' => b.now? c = some reading ∧ b' = b

/-- The deeds lead from no clocks to the bank. -/
def Session (deeds : List Deed) (b : Bank) : Prop := Path Does .empty deeds b

/-- Follow a clock back through the deeds, the last of which comes first. -/
def originBefore : List Deed → Nat → Option Nat
  | [], _ => none
  | .made c' :: rest, c => if c = c' then some c else originBefore rest c
  | .shared c' parent :: rest, c => originBefore rest (if c = c' then parent else c)
  | _ :: rest, c => originBefore rest c

/-- The clock that was made on its own and that a clock comes from. -/
def origin (deeds : List Deed) (c : Nat) : Option Nat := originBefore deeds.reverse c

/-- A clock was shared from another, that one from a third, and so on to one that was made on its
own. -/
structure ComesFrom (deeds : List Deed) (c r : Nat) : Prop where
  made : .made r ∈ deeds
  chain : Relation.ReflTransGen (fun x parent => .shared x parent ∈ deeds) c r

/-- How far a deed advances the clocks with an origin. -/
def Deed.adds (deeds : List Deed) (r : Nat) : Deed → Nat
  | .advanced c span => if origin deeds c = some r then span.nanos else 0
  | _ => 0

/-- How far a part of the deeds advances the clocks with an origin. -/
def distance (deeds part : List Deed) (r : Nat) : Nat := (part.map (Deed.adds deeds r)).sum

variable {deeds past later : List Deed} {e : Deed}

section Concat

@[simp]
theorem origin_made (c' : Nat) :
    origin (deeds ++ [.made c']) c = if c = c' then some c else origin deeds c := by
  simp [origin, originBefore]

@[simp]
theorem origin_shared (c' parent : Nat) :
    origin (deeds ++ [.shared c' parent]) c = origin deeds (if c = c' then parent else c) := by
  simp [origin, originBefore]

@[simp]
theorem origin_advanced (c' : Nat) (span : Duration) :
    origin (deeds ++ [.advanced c' span]) c = origin deeds c := by
  simp [origin, originBefore]

/-- Nothing is made or moved by the deed. -/
def Deed.idle : Deed → Bool
  | .refused .. => true
  | .seen .. => true
  | _ => false

theorem origin_idle (h : e.idle = true) (c : Nat) : origin (deeds ++ [e]) c = origin deeds c := by
  cases e with
  | refused c' span => simp [origin, originBefore]
  | seen c' reading => simp [origin, originBefore]
  | _ => cases h

theorem distance_append (part part' : List Deed) (r : Nat) :
    distance deeds (part ++ part') r = distance deeds part r + distance deeds part' r := by
  simp [distance]

/-- The distance depends only on the origins of the clocks that were advanced. -/
theorem distance_congr {deeds' part : List Deed}
    (h : ∀ c span, .advanced c span ∈ part → origin deeds c = origin deeds' c) (r : Nat) :
    distance deeds part r = distance deeds' part r := by
  refine congrArg List.sum (List.map_congr_left fun e he => ?_)
  cases e with
  | advanced c span => rw [Deed.adds, Deed.adds, h c span he]
  | _ => rfl

theorem distance_eq_zero {part : List Deed} (h : ∀ c, origin deeds c ≠ some r) :
    distance deeds part r = 0 := by
  refine List.sum_eq_zero_iff_forall_eq_nat.mpr fun k hk => ?_
  obtain ⟨e, -, rfl⟩ := List.mem_map.mp hk
  cases e with
  | advanced c span => exact if_neg (h c)
  | _ => rfl

end Concat

/-! ## What a bank shows -/

/-- The clocks in the deed have the origins that it says. -/
def Deed.Settled (deeds : List Deed) : Deed → Prop
  | .made c => origin deeds c = some c
  | .shared c parent => ∃ r, origin deeds c = some r ∧ origin deeds parent = some r
  | .advanced c _ => ∃ r, origin deeds c = some r
  | _ => True

/-- What the deeds tell of the bank that they led to. -/
structure Tracked (deeds : List Deed) (b : Bank) : Prop where
  known : ∀ c, origin deeds c = none ↔ b.shown[c]? = none
  /-- Clocks show the same cell if they have the same origin, and only then. -/
  same : ∀ c c', origin deeds c = origin deeds c' ↔ b.shown[c]? = b.shown[c']?
  settled : ∀ e ∈ deeds, e.Settled deeds
  now : ∀ c r, origin deeds c = some r → b.now? c = some ⟨distance deeds deeds r⟩

theorem ComesFrom.concat (h : ComesFrom deeds c r) (e : Deed) : ComesFrom (deeds ++ [e]) c r where
  made := List.mem_append_left _ h.made
  chain := Relation.ReflTransGen.mono (fun _ _ hmem => List.mem_append_left _ hmem) _ _ h.chain

/-- An origin was made on its own, and the clock was shared from it. -/
theorem comesFrom_of_originBefore {newest : List Deed} (h : originBefore newest c = some r) :
    ComesFrom newest.reverse c r := by
  induction newest generalizing c with
  | nil => cases h
  | cons e rest ih =>
    rw [List.reverse_cons]
    cases e with
    | made c' =>
      rw [originBefore] at h
      split at h
      · next heq =>
        obtain rfl := Option.some.inj h
        exact ⟨by simp [heq], .refl⟩
      · exact (ih h).concat _
    | shared c' parent =>
      have hrest := (ih h).concat (.shared c' parent)
      split at hrest
      · next heq => exact ⟨hrest.made, .head (by simp [heq]) hrest.chain⟩
      · exact hrest
    | _ => exact (ih h).concat _

theorem comesFrom_of_origin (h : origin deeds c = some r) : ComesFrom deeds c r :=
  List.reverse_reverse deeds ▸ comesFrom_of_originBefore h

namespace Tracked

/-- A clock that there is keeps its origin. -/
theorem origin_kept (h : Tracked past b) (hd : Does e b b') (hc : origin past c = some r) :
    origin (past ++ [e]) c = some r := by
  have hne : ∀ c', b.shown[c']? = none → c ≠ c' := by
    rintro c' hnew rfl
    rw [(h.known c).mpr hnew] at hc
    cases hc
  cases e with
  | made c' =>
    rw [origin_made, if_neg (hne c' (Bank.new_spec hd).1)]
    exact hc
  | shared c' parent =>
    rw [origin_shared, if_neg (hne c' (Bank.share_spec hd).1)]
    exact hc
  | advanced c' span =>
    rw [origin_advanced]
    exact hc
  | _ =>
    rw [origin_idle rfl]
    exact hc

theorem distance_kept (h : Tracked past b) (hd : Does e b b') (r : Nat) :
    distance (past ++ [e]) (past ++ [e]) r =
      distance past past r + Deed.adds (past ++ [e]) r e := by
  have hpast : distance (past ++ [e]) past r = distance past past r := by
    refine distance_congr (fun c span hmem => ?_) r
    obtain ⟨r', hr'⟩ := h.settled _ hmem
    rw [h.origin_kept hd hr', hr']
  rw [distance_append, hpast]
  simp [distance]

theorem exists_origin (h : Tracked deeds b) (hc : b.shown[c]? ≠ none) :
    ∃ r, origin deeds c = some r :=
  Option.ne_none_iff_exists'.mp fun hnone => hc ((h.known c).mp hnone)

theorem origin_of_now (h : Tracked deeds b) (hc : b.now? c = some reading) :
    ∃ r, origin deeds c = some r ∧ reading = ⟨distance deeds deeds r⟩ := by
  obtain ⟨r, hr⟩ := h.exists_origin (c := c) fun hnone => by
    rw [Bank.now?_of_shown_none hnone] at hc
    cases hc
  exact ⟨r, hr, Option.some.inj (hc.symm.trans (h.now c r hr))⟩

theorem origin_self (h : Tracked deeds b) (hc : origin deeds c = some r) :
    origin deeds r = some r :=
  h.settled _ (comesFrom_of_origin hc).made

theorem cell_lt (h : Tracked deeds b) {cell : Nat} (hc : b.shown[c]? = some cell) :
    cell < b.cells.size := by
  obtain ⟨r, hr⟩ := h.exists_origin (hc ▸ Option.some_ne_none _ : b.shown[c]? ≠ none)
  have hreading := h.now c r hr
  rw [Bank.now?, hc, Option.bind_some] at hreading
  exact (Array.getElem?_eq_some_iff.mp hreading).1

/-- The deeds before stay settled, whatever the deed is. -/
theorem settled_concat (h : Tracked past b) (hd : Does e b b') (he : e.Settled (past ++ [e])) :
    ∀ d ∈ past ++ [e], d.Settled (past ++ [e]) := by
  intro d hmem
  rcases List.mem_append.mp hmem with hmem | hmem
  · have hsettled := h.settled d hmem
    cases d with
    | made c => exact h.origin_kept hd hsettled
    | shared c parent =>
      obtain ⟨r, hc, hparent⟩ := hsettled
      exact ⟨r, h.origin_kept hd hc, h.origin_kept hd hparent⟩
    | advanced c span =>
      obtain ⟨r, hc⟩ := hsettled
      exact ⟨r, h.origin_kept hd hc⟩
    | _ => trivial
  · rw [List.mem_singleton.mp hmem]
    exact he

theorem made_new (h : Tracked past b) (hd : b.new = (c, b')) :
    Tracked (past ++ [.made c]) b' := by
  obtain ⟨hfresh, hshown, hzero, hnow⟩ := Bank.new_spec hd
  have hnone : origin past c = none := (h.known c).mpr hfresh
  -- neither the number nor the cell is in use
  have hroot : ∀ x, origin past x ≠ some c := by
    intro x hx
    rw [h.origin_self hx] at hnone
    cases hnone
  have hcell : ∀ x : Nat, b.shown[x]? ≠ some b.cells.size :=
    fun x hx => Nat.lt_irrefl _ (h.cell_lt hx)
  constructor
  · intro x
    rw [origin_made, hshown]
    split
    · simp
    · exact h.known x
  · intro x y
    rw [origin_made, origin_made, hshown, hshown]
    by_cases hx : x = c <;> by_cases hy : y = c
    · simp [hx, hy]
    · subst hx
      simp [hy, (hroot y).symm, (hcell y).symm]
    · subst hy
      simp [hx, hroot x, hcell x]
    · simp only [hx, hy, if_false]
      exact h.same x y
  · exact h.settled_concat (e := .made c) hd (by simp [Deed.Settled])
  · intro x r hr
    rw [h.distance_kept (e := .made c) hd]
    rw [origin_made] at hr
    split at hr
    · next heq =>
      subst heq
      cases hr
      rw [distance_eq_zero hroot]
      exact hzero
    · exact hnow x _ (h.now x r hr)

theorem shared_from (h : Tracked past b) (hd : b.share? p = some (c, b')) :
    Tracked (past ++ [.shared c p]) b' := by
  obtain ⟨hfresh, hparent, hshown, -⟩ := Bank.share_spec hd
  constructor
  · intro x
    rw [origin_shared, hshown]
    exact h.known _
  · intro x y
    rw [origin_shared, origin_shared, hshown, hshown]
    exact h.same _ _
  · obtain ⟨r, hr⟩ := h.exists_origin hparent
    have hne : p ≠ c := fun heq => hparent (heq ▸ hfresh)
    exact h.settled_concat (e := .shared c p) hd ⟨r, by simpa using hr, by simpa [hne] using hr⟩
  · intro x r hr
    rw [origin_shared] at hr
    rw [h.distance_kept (e := .shared c p) hd, Bank.now?_of_share hd]
    exact h.now _ r hr

theorem advanced_by (h : Tracked past b) (hd : b.advance c span = .to b') :
    Tracked (past ++ [.advanced c span]) b' := by
  obtain ⟨reading, later, hreading, hlater, hshown, hnow⟩ := Bank.advance_spec hd
  obtain ⟨r₀, hr₀, rfl⟩ := h.origin_of_now hreading
  constructor
  · intro x
    rw [origin_advanced, hshown]
    exact h.known x
  · intro x y
    rw [origin_advanced, origin_advanced, hshown]
    exact h.same x y
  · exact h.settled_concat (e := .advanced c span) hd ⟨r₀, by rw [origin_advanced, hr₀]⟩
  · intro x r hr
    rw [origin_advanced] at hr
    rw [h.distance_kept (e := .advanced c span) hd, Deed.adds, origin_advanced, hnow]
    by_cases hsame : b.shown[x]? = b.shown[c]?
    · have horigin : origin past x = origin past c := (h.same x c).mpr hsame
      rw [hr, hr₀] at horigin
      obtain rfl := Option.some.inj horigin
      have hsum : later = ⟨distance past past r + span.nanos⟩ :=
        congrArg Duration.mk (Duration.add?_eq_some hlater)
      rw [if_pos hsame, if_pos hr₀, hsum]
    · have hother : origin past c ≠ some r := fun hc => hsame ((h.same x c).mp (hr.trans hc.symm))
      rw [if_neg hsame, if_neg hother]
      exact h.now x r hr

theorem idle_deed (h : Tracked past b) (hd : Does e b b) (hidle : e.idle = true) :
    Tracked (past ++ [e]) b := by
  have hquiet : e.Settled (past ++ [e]) ∧ ∀ r, Deed.adds (past ++ [e]) r e = 0 := by
    cases e with
    | refused c span => exact ⟨trivial, fun _ => rfl⟩
    | seen c reading => exact ⟨trivial, fun _ => rfl⟩
    | _ => cases hidle
  constructor
  · intro c
    rw [origin_idle hidle]
    exact h.known c
  · intro c c'
    rw [origin_idle hidle, origin_idle hidle]
    exact h.same c c'
  · exact h.settled_concat hd hquiet.1
  · intro c r hr
    rw [origin_idle hidle] at hr
    rw [h.distance_kept hd, hquiet.2, Nat.add_zero]
    exact h.now c r hr

/-- Every deed keeps the account. -/
theorem of_does (h : Tracked past b) (hd : Does e b b') : Tracked (past ++ [e]) b' := by
  cases e with
  | made c => exact h.made_new hd
  | shared c p => exact h.shared_from hd
  | advanced c span => exact h.advanced_by hd
  | refused c span =>
    obtain rfl := Bank.eq_of_advance_tooFar hd
    exact h.idle_deed hd rfl
  | seen c reading =>
    obtain rfl := hd.2
    exact h.idle_deed hd rfl

end Tracked

theorem tracked_empty : Tracked [] .empty where
  known c := by simp [origin, originBefore, Bank.empty]
  same c c' := by simp [origin, originBefore, Bank.empty]
  settled e he := by cases he
  now c r hr := by cases hr

theorem tracked_of_session (h : Session deeds b) : Tracked deeds b :=
  h.recorded tracked_empty fun _ _ _ _ _ hd htracked => htracked.of_does hd

/-- What was done later changes no origin. -/
theorem origin_extends (h : Session past b) (hlater : Path Does b later b')
    (hc : origin past c = some r) : origin (past ++ later) c = some r := by
  induction hlater generalizing past with
  | nil => rwa [List.append_nil]
  | cons hd _ ih =>
    rw [List.append_cons]
    exact ih (h.append (.single hd)) ((tracked_of_session h).origin_kept hd hc)

/-- A reading grows by what the clocks of its origin are advanced. -/
theorem now_extends (h : Session past b) (hlater : Path Does b later b')
    (hc : b.now? c = some reading) :
    ∃ r, origin (past ++ later) c = some r ∧
      b'.now? c = some ⟨reading.nanos + distance (past ++ later) later r⟩ := by
  have hpast := tracked_of_session h
  have hwhole := tracked_of_session (h.append hlater)
  obtain ⟨r, hr, rfl⟩ := hpast.origin_of_now hc
  have hkept : distance (past ++ later) past r = distance past past r := by
    refine distance_congr (fun x span hx => ?_) r
    obtain ⟨r', hr'⟩ := hpast.settled _ hx
    rw [origin_extends h hlater hr', hr']
  have hextends := origin_extends h hlater hr
  refine ⟨r, hextends, ?_⟩
  rw [hwhole.now c r hextends, distance_append, hkept]

/-- Following a clock back finds the clock that it comes from. -/
theorem origin_eq_some_iff (h : Tracked deeds b) (c r : Nat) :
    origin deeds c = some r ↔ ComesFrom deeds c r := by
  constructor
  · exact comesFrom_of_origin
  · rintro ⟨hmade, hchain⟩
    induction hchain using Relation.ReflTransGen.head_induction_on with
    | refl => exact h.settled _ hmade
    | head hstep _ ih =>
      obtain ⟨r', hc, hp⟩ := h.settled _ hstep
      rw [hc, ← hp, ih]

/-! ## Sessions -/

/-- What there is to the readings of all clocks after some deeds. -/
structure SharesTime (deeds : List Deed) (b : Bank) : Prop where
  derived : ∀ c r, origin deeds c = some r ↔ ComesFrom deeds c r
  /-- A clock that was given out shows how far the clocks of its origin were advanced, and all
  other clocks have no part in it. -/
  shows : ∀ c, b.now? c = (origin deeds c).map fun r => ⟨distance deeds deeds r⟩
  /-- It cannot be advanced beyond the longest duration, and can otherwise. -/
  refuses : ∀ c r, origin deeds c = some r → ∀ span,
    (∃ b', b.advance c span = .tooFar b') ↔
      Duration.limit.nanos < distance deeds deeds r + span.nanos
  advances : ∀ c r, origin deeds c = some r → ∀ span,
    distance deeds deeds r + span.nanos ≤ Duration.limit.nanos → ∃ b', b.advance c span = .to b'
  /-- Where it cannot, no clock shows anything else afterwards. -/
  unmoved : ∀ c span b', b.advance c span = .tooFar b' → ∀ x, b'.now? x = b.now? x
  /-- A stopwatch shows how far the clocks of its clock's origin were advanced since its start,
  and nothing is cut off. -/
  times : ∀ past later mid, deeds = past ++ later → Session past mid → Path Does mid later b →
    ∀ c started, mid.now? c = some started → ∃ r now, origin deeds c = some r ∧
      b.now? c = some now ∧ (Stopwatch.elapsed ⟨started⟩ now).nanos = distance deeds later r

/-- Whatever was done with however many clocks, those that come from one share their time, and no
others do. -/
theorem session_sharesTime (h : Session deeds b) : SharesTime deeds b := by
  have htracked := tracked_of_session h
  constructor
  · exact origin_eq_some_iff htracked
  · intro c
    cases hc : origin deeds c with
    | none => exact Bank.now?_of_shown_none ((htracked.known c).mp hc)
    | some r => exact htracked.now c r hc
  · intro c r hc span
    exact (Bank.advance_of_now (htracked.now c r hc)).1
  · intro c r hc span hshort
    exact (Bank.advance_of_now (htracked.now c r hc)).2 hshort
  · intro c span b' hfar x
    rw [Bank.eq_of_advance_tooFar hfar]
  · rintro past later mid rfl hpast hlater c started hstarted
    obtain ⟨r, hr, hnow⟩ := now_extends hpast hlater hstarted
    refine ⟨r, _, hr, hnow, ?_⟩
    rw [Stopwatch.elapsed, Duration.nanos_sub]
    exact Nat.add_sub_cancel_left _ _

/-- A clock is shared and advanced, and so is one that is shared from the shared one.  Another
clock is made meanwhile. -/
def cousins : List Deed :=
  [.made 0, .shared 1 0, .advanced 1 (.ofMillis 250), .made 2, .shared 3 1]

/-- The clock shared last is advanced, then the other one, and then the first clock too far. -/
def drifting : List Deed :=
  [.advanced 3 (.ofMillis 1500), .advanced 2 (.ofSeconds 5), .refused 0 .limit]

/-- The first clock shows both advances, a stopwatch that was started in between shows the second,
and the rest of the longest duration is left to advance by, to the nanosecond. -/
theorem cousins_shareTime :
    ∃ mid b, Session cousins mid ∧ Path Does mid drifting b ∧ Session (cousins ++ drifting) b ∧
      b.now? 0 = some (.ofMillis 1750) ∧ b.now? 2 = some (.ofSeconds 5) ∧
      (∃ b', b.advance 0 ⟨Duration.limit.nanos - 1750000000⟩ = .to b') ∧
      (∃ b', b.advance 0 ⟨Duration.limit.nanos - 1750000000 + 1⟩ = .tooFar b' ∧
        b'.now? 0 = some (.ofMillis 1750)) ∧
      ∃ started now, mid.now? 0 = some started ∧ b.now? 0 = some now ∧
        Stopwatch.elapsed ⟨started⟩ now = .ofMillis 1500 := by
  obtain ⟨mid, b, hcousins, hdrifting, hstarted⟩ : ∃ mid b, Session cousins mid ∧
      Path Does mid drifting b ∧ mid.now? 0 = some (.ofMillis 250) :=
    ⟨_, _, .cons rfl <| .cons rfl <| .cons rfl <| .cons rfl <| .cons rfl <| .nil _,
      .cons rfl <| .cons rfl <| .cons rfl <| .nil _, rfl⟩
  have hsession := hcousins.append hdrifting
  have hshares := session_sharesTime hsession
  have horigin : origin (cousins ++ drifting) 0 = some 0 := by decide
  have hdistance : distance (cousins ++ drifting) (cousins ++ drifting) 0 = 1750000000 := by decide
  obtain ⟨r, now, hr, hnow, htime⟩ :=
    hshares.times cousins drifting mid rfl hcousins hdrifting 0 _ hstarted
  cases horigin.symm.trans hr
  refine ⟨mid, b, hcousins, hdrifting, hsession, hshares.shows 0, hshares.shows 2, ?_, ?_, _, now,
    hstarted, hnow, ?_⟩
  · refine hshares.advances 0 0 horigin _ ?_
    rw [hdistance]
    decide
  · obtain ⟨b', hfar⟩ := (hshares.refuses 0 0 horigin
      ⟨Duration.limit.nanos - 1750000000 + 1⟩).mpr (by rw [hdistance]; decide)
    exact ⟨b', hfar, (hshares.unmoved _ _ _ hfar 0).trans (hshares.shows 0)⟩
  · exact congrArg Duration.mk htime

end Clock
end RadioBench
