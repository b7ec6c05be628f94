/-
A ledger of guards.

A driver may issue one handle twice, so events alone do not say which guard made a
call.  A deed is an event told of one guard, or of a stream's guard and that of its
device, by numbers that are given out once.  The ledger says of every number whether
its guard is still to come, lives, or is gone, and which deeds it may do.

The life of a guard is then read off a list of deeds: it begins with one success, ends
with one call that gives the resource back, and has nothing before and nothing after.
-/
import Mathlib.Data.List.Forall2
import RadioBench.Proofs.Host.FirstError
import RadioBench.Proofs.Prog.Path

namespace RadioBench

/-! ## Deeds -/

/-- What a guard does: `d` is the number of a device's guard, `t` that of a stream's. -/
inductive Deed
  | opened (d : Nat) (h : DeviceHandle)
  /-- A call that names the device, or a stream that could not be set up on it. -/
  | used (d : Nat) (h : DeviceHandle)
  | closed (d : Nat) (h : DeviceHandle)
  | setUp (d : Nat) (h : DeviceHandle) (t : Nat) (n : StreamHandle)
  | started (t : Nat) (n : StreamHandle)
  | stopped (t : Nat) (n : StreamHandle)
  | notStopped (t : Nat) (n : StreamHandle)
  /-- Any other call that names the stream, also a start that fails. -/
  | streamed (t : Nat) (n : StreamHandle)
  | destroyed (d : Nat) (h : DeviceHandle) (t : Nat) (n : StreamHandle)
  /-- No call of a device's or a stream's guard. -/
  | other

namespace Deed

/-- The deed is one of the device's guard with this number. -/
def OfDevice (d : Nat) : Deed → Prop
  | opened i _ => i = d
  | used i _ => i = d
  | closed i _ => i = d
  | setUp i _ _ _ => i = d
  | destroyed i _ _ _ => i = d
  | _ => False

/-- The deed is one of the stream's guard with this number. -/
def OfStream (t : Nat) : Deed → Prop
  | setUp _ _ j _ => j = t
  | started j _ => j = t
  | stopped j _ => j = t
  | notStopped j _ => j = t
  | streamed j _ => j = t
  | destroyed _ _ j _ => j = t
  | _ => False

/-- The deed names a device that stays open, by this handle. -/
def Uses (d : Nat) (h : DeviceHandle) : Deed → Prop
  | used i k => i = d ∧ k = h
  | setUp i k _ _ => i = d ∧ k = h
  | destroyed i k _ _ => i = d ∧ k = h
  | _ => False

/-- The deed names a stream that stays set up, by this handle. -/
def Plays (t : Nat) (n : StreamHandle) : Deed → Prop
  | started j m => j = t ∧ m = n
  | stopped j m => j = t ∧ m = n
  | notStopped j m => j = t ∧ m = n
  | streamed j m => j = t ∧ m = n
  | _ => False

/-- The deeds that tell an event.  Closing and destroying are told alike whatever they
are answered. -/
inductive Tells : Event Host → Deed → Prop
  | ambient (o : Ambient) (a : o.Reply) : Tells ⟨.inr o, a⟩ other
  | version (a : String) : Tells ⟨.inl .libraryVersion, a⟩ other
  | register (handler : Option LogHandler) : Tells ⟨.inl (.registerLog handler), ()⟩ other
  | list (a : Except Error (List String)) : Tells ⟨.inl .deviceList, a⟩ other
  | opened (info : String) (h : DeviceHandle) (d : Nat) :
      Tells ⟨.inl (.openDevice info), .ok h⟩ (opened d h)
  | notOpened (info : String) (e : Error) : Tells ⟨.inl (.openDevice info), .error e⟩ other
  | closed (h : DeviceHandle) (a : Except Error Unit) (d : Nat) :
      Tells ⟨.inl (.closeDevice h), a⟩ (closed d h)
  | device (h : DeviceHandle) (c : DeviceCall) (a : Except Error c.Result) (d : Nat) :
      Tells ⟨.inl (.device h c), a⟩ (used d h)
  | channel (h : DeviceHandle) (ch : ChannelId) (c : ChannelCall) (a : Except Error c.Result)
      (d : Nat) : Tells ⟨.inl (.channel h ch c), a⟩ (used d h)
  | setUp (h : DeviceHandle) (config : StreamConfig) (n : StreamHandle) (d t : Nat) :
      Tells ⟨.inl (.setupStream h config), .ok n⟩ (setUp d h t n)
  | notSetUp (h : DeviceHandle) (config : StreamConfig) (e : Error) (d : Nat) :
      Tells ⟨.inl (.setupStream h config), .error e⟩ (used d h)
  | started (n : StreamHandle) (t : Nat) : Tells ⟨.inl (.startStream n), .ok ()⟩ (started t n)
  | notStarted (n : StreamHandle) (e : Error) (t : Nat) :
      Tells ⟨.inl (.startStream n), .error e⟩ (streamed t n)
  | stopped (n : StreamHandle) (t : Nat) : Tells ⟨.inl (.stopStream n), .ok ()⟩ (stopped t n)
  | notStopped (n : StreamHandle) (e : Error) (t : Nat) :
      Tells ⟨.inl (.stopStream n), .error e⟩ (notStopped t n)
  | recv (n : StreamHandle) (buffer : SampleBuffer) (info : Option StreamMeta)
      (timeout : Duration) (a : Received) (t : Nat) :
      Tells ⟨.inl (.recvStream n buffer info timeout), a⟩ (streamed t n)
  | send (n : StreamHandle) (buffer : SampleBuffer) (count : Nat) (info : Option StreamMeta)
      (timeout : Duration) (a : Except Error Nat) (t : Nat) :
      Tells ⟨.inl (.sendStream n buffer count info timeout), a⟩ (streamed t n)
  | status (n : StreamHandle) (a : Except Error StreamStatus) (t : Nat) :
      Tells ⟨.inl (.streamStatus n), a⟩ (streamed t n)
  | destroyed (h : DeviceHandle) (n : StreamHandle) (a : Except Error Unit) (d t : Nat) :
      Tells ⟨.inl (.destroyStream h n), a⟩ (destroyed d h t n)

/-! ## Lives -/

/-- The guard's device is opened once and closed once, by one handle, and is named only
in between. -/
def DeviceLife (d : Nat) (deeds : List Deed) : Prop :=
  ∃ before h use rest, deeds = before ++ opened d h :: (use ++ closed d h :: rest) ∧
    (∀ x ∈ before ++ rest, ¬ x.OfDevice d) ∧
    ∀ x ∈ use, x.OfDevice d → x.Uses d h

/-- A stop is tried only after a start, with no success of an earlier stop in between. -/
def StopsRunning (t : Nat) (n : StreamHandle) (use : List Deed) : Prop :=
  ∀ before x after, use = before ++ x :: after → (x = stopped t n ∨ x = notStopped t n) →
    ∃ front back, before = front ++ started t n :: back ∧ stopped t n ∉ back

/-- The guard's stream is set up once and destroyed once, on one device and by one
handle, and is named only in between. -/
def StreamLife (t : Nat) (deeds : List Deed) : Prop :=
  ∃ before d h n use rest,
    deeds = before ++ setUp d h t n :: (use ++ destroyed d h t n :: rest) ∧
    (∀ x ∈ before ++ rest, ¬ x.OfStream t) ∧
    (∀ x ∈ use, x.OfStream t → x.Plays t n) ∧ StopsRunning t n use

/-- Deeds can be told of the events, such that every guard that does anything has its
whole life among them. -/
def KeepsContract (es : List (Event Host)) : Prop :=
  ∃ deeds, List.Forall₂ Tells es deeds ∧
    (∀ d, (∃ x ∈ deeds, x.OfDevice d) → DeviceLife d deeds) ∧
      ∀ t, (∃ x ∈ deeds, x.OfStream t) → StreamLife t deeds

end Deed

/-! ## The ledger -/

inductive Phase (α : Type)
  | unborn
  | live (a : α)
  | gone

/-- What the guard of a stream is known by. -/
structure Held where
  /-- The number of its device's guard. -/
  device : Nat
  handle : DeviceHandle
  stream : StreamHandle
  running : Bool

/-- What a deed makes of the device's guard with the number `d`. -/
def deviceStep (d : Nat) : Deed → Phase DeviceHandle → Phase DeviceHandle → Prop
  | .opened i h, p, q => if i = d then p = .unborn ∧ q = .live h else q = p
  | .closed i h, p, q => if i = d then p = .live h ∧ q = .gone else q = p
  | .used i h, p, q => (i = d → p = .live h) ∧ q = p
  | .setUp i h _ _, p, q => (i = d → p = .live h) ∧ q = p
  | .destroyed i h _ _, p, q => (i = d → p = .live h) ∧ q = p
  | _, p, q => q = p

/-- What a deed makes of the stream's guard with the number `t`. -/
def streamStep (t : Nat) : Deed → Phase Held → Phase Held → Prop
  | .setUp i h j n, p, q => if j = t then p = .unborn ∧ q = .live ⟨i, h, n, false⟩ else q = p
  | .started j n, p, q =>
    if j = t then ∃ i h r, p = .live ⟨i, h, n, r⟩ ∧ q = .live ⟨i, h, n, true⟩ else q = p
  | .stopped j n, p, q =>
    if j = t then ∃ i h, p = .live ⟨i, h, n, true⟩ ∧ q = .live ⟨i, h, n, false⟩ else q = p
  | .notStopped j n, p, q => (j = t → ∃ i h, p = .live ⟨i, h, n, true⟩) ∧ q = p
  | .streamed j n, p, q => (j = t → ∃ i h r, p = .live ⟨i, h, n, r⟩) ∧ q = p
  | .destroyed i h j n, p, q =>
    if j = t then (∃ r, p = .live ⟨i, h, n, r⟩) ∧ q = .gone else q = p
  | _, p, q => q = p

structure Ledger where
  device : Nat → Phase DeviceHandle
  stream : Nat → Phase Held

namespace Ledger

def empty : Ledger := ⟨fun _ => .unborn, fun _ => .unborn⟩

/-- A deed is posted to every guard at once. -/
def Posts (x : Deed) (L M : Ledger) : Prop :=
  (∀ d, deviceStep d x (L.device d) (M.device d)) ∧
    ∀ t, streamStep t x (L.stream t) (M.stream t)

/-- An event is told by a deed that is posted. -/
def Books (ev : Event Host) (L M : Ledger) : Prop := ∃ x, Deed.Tells ev x ∧ Posts x L M

end Ledger

/-! ## Lives of devices -/

namespace Deed

variable {d : Nat} {x : Deed} {deeds : List Deed}

theorem deviceStep_unborn {q : Phase DeviceHandle} (hx : deviceStep d x .unborn q) :
    (∃ h, x = opened d h ∧ q = .live h) ∨ (q = .unborn ∧ ¬ x.OfDevice d) := by
  cases x <;> simp only [deviceStep, OfDevice] at hx ⊢ <;> grind

theorem deviceStep_live {h : DeviceHandle} {q : Phase DeviceHandle}
    (hx : deviceStep d x (.live h) q) :
    (x = closed d h ∧ q = .gone) ∨ (q = .live h ∧ (x.OfDevice d → x.Uses d h)) := by
  cases x <;> simp only [deviceStep, OfDevice, Uses] at hx ⊢ <;> grind

theorem deviceStep_gone {q : Phase DeviceHandle} (hx : deviceStep d x .gone q) :
    q = .gone ∧ ¬ x.OfDevice d := by
  cases x <;> simp only [deviceStep, OfDevice] at hx ⊢ <;> grind

theorem not_ofDevice_of_gone {q : Phase DeviceHandle} (h : Path (deviceStep d) .gone deeds q) :
    ∀ x ∈ deeds, ¬ x.OfDevice d := by
  induction deeds with
  | nil => simp
  | cons x deeds ih =>
    obtain ⟨p, hx, hrest⟩ := Path.cons_iff.mp h
    obtain ⟨rfl, hnot⟩ := deviceStep_gone hx
    exact List.forall_mem_cons.mpr ⟨hnot, ih hrest⟩

theorem closed_of_live {h : DeviceHandle} {q : Phase DeviceHandle}
    (hdeeds : Path (deviceStep d) (.live h) deeds q) (hq : ∀ h, q ≠ .live h) :
    ∃ use rest, deeds = use ++ closed d h :: rest ∧ (∀ x ∈ rest, ¬ x.OfDevice d) ∧
      ∀ x ∈ use, x.OfDevice d → x.Uses d h := by
  induction deeds with
  | nil => exact absurd (Path.nil_iff.mp hdeeds).symm (hq h)
  | cons x deeds ih =>
    obtain ⟨p, hx, hrest⟩ := Path.cons_iff.mp hdeeds
    rcases deviceStep_live hx with ⟨rfl, rfl⟩ | ⟨rfl, hthis⟩
    · exact ⟨[], deeds, rfl, not_ofDevice_of_gone hrest, by simp⟩
    · obtain ⟨use, rest, rfl, hafter, huse⟩ := ih hrest
      exact ⟨x :: use, rest, rfl, hafter, List.forall_mem_cons.mpr ⟨hthis, huse⟩⟩

/-- A device's guard that does anything, and is not left alive, has a life. -/
theorem deviceLife_of_path {q : Phase DeviceHandle} (h : Path (deviceStep d) .unborn deeds q)
    (hq : ∀ h, q ≠ .live h) (hsome : ∃ x ∈ deeds, x.OfDevice d) : DeviceLife d deeds := by
  induction deeds with
  | nil => simp at hsome
  | cons x deeds ih =>
    obtain ⟨p, hx, hrest⟩ := Path.cons_iff.mp h
    rcases deviceStep_unborn hx with ⟨i, rfl, rfl⟩ | ⟨rfl, hnot⟩
    · obtain ⟨use, rest, rfl, hafter, huse⟩ := closed_of_live hrest hq
      exact ⟨[], i, use, rest, rfl, hafter, huse⟩
    · obtain ⟨y, hy, hyd⟩ := hsome
      obtain rfl | hy := List.mem_cons.mp hy
      · exact absurd hyd hnot
      · obtain ⟨before, i, use, rest, rfl, hout, huse⟩ := ih hrest ⟨y, hy, hyd⟩
        exact ⟨x :: before, i, use, rest, rfl, List.forall_mem_cons.mpr ⟨hnot, hout⟩, huse⟩

/-! ## Lives of streams -/

variable {t : Nat} {n : StreamHandle}

theorem streamStep_unborn {q : Phase Held} (hx : streamStep t x .unborn q) :
    (∃ d h n, x = setUp d h t n ∧ q = .live ⟨d, h, n, false⟩) ∨
      (q = .unborn ∧ ¬ x.OfStream t) := by
  cases x <;> simp only [streamStep, OfStream] at hx ⊢ <;> grind

theorem streamStep_live {h : DeviceHandle} {r : Bool} {q : Phase Held}
    (hx : streamStep t x (.live ⟨d, h, n, r⟩) q) :
    (x = destroyed d h t n ∧ q = .gone) ∨
      (x = started t n ∧ q = .live ⟨d, h, n, true⟩) ∨
      (x = stopped t n ∧ r = true ∧ q = .live ⟨d, h, n, false⟩) ∨
      (x = notStopped t n ∧ r = true ∧ q = .live ⟨d, h, n, true⟩) ∨
      (x ≠ stopped t n ∧ x ≠ notStopped t n ∧ (x.OfStream t → x.Plays t n) ∧
        q = .live ⟨d, h, n, r⟩) := by
  cases x <;> simp only [streamStep, OfStream, Plays] at hx ⊢ <;> grind

theorem streamStep_gone {q : Phase Held} (hx : streamStep t x .gone q) :
    q = .gone ∧ ¬ x.OfStream t := by
  cases x <;> simp only [streamStep, OfStream] at hx ⊢ <;> grind

theorem not_ofStream_of_gone {q : Phase Held} (h : Path (streamStep t) .gone deeds q) :
    ∀ x ∈ deeds, ¬ x.OfStream t := by
  induction deeds with
  | nil => simp
  | cons x deeds ih =>
    obtain ⟨p, hx, hrest⟩ := Path.cons_iff.mp h
    obtain ⟨rfl, hnot⟩ := streamStep_gone hx
    exact List.forall_mem_cons.mpr ⟨hnot, ih hrest⟩

/-- `StopsRunning` for a stream that is already running if `r` holds. -/
def StopsFrom (r : Bool) (t : Nat) (n : StreamHandle) (use : List Deed) : Prop :=
  ∀ before x after, use = before ++ x :: after → (x = stopped t n ∨ x = notStopped t n) →
    (r = true ∧ stopped t n ∉ before) ∨
      ∃ front back, before = front ++ started t n :: back ∧ stopped t n ∉ back

theorem StopsFrom.cons {r r' : Bool} {use : List Deed} (h : StopsFrom r' t n use)
    (hstop : x = stopped t n ∨ x = notStopped t n → r = true)
    (hstart : r' = true → x = started t n ∨ (r = true ∧ x ≠ stopped t n)) :
    StopsFrom r t n (x :: use) := by
  intro before y after heq hy
  cases before with
  | nil =>
    obtain ⟨rfl, -⟩ := List.cons.inj heq
    exact .inl ⟨hstop hy, List.not_mem_nil⟩
  | cons z before =>
    obtain ⟨rfl, htail⟩ := List.cons.inj heq
    rcases h before y after htail hy with ⟨hr, hnot⟩ | ⟨front, back, rfl, hnot⟩
    · rcases hstart hr with rfl | ⟨hr, hne⟩
      · exact .inr ⟨[], before, rfl, hnot⟩
      · exact .inl ⟨hr, List.not_mem_cons_of_ne_of_not_mem hne.symm hnot⟩
    · exact .inr ⟨x :: front, back, rfl, hnot⟩

theorem destroyed_of_live {h : DeviceHandle} {r : Bool} {q : Phase Held}
    (hdeeds : Path (streamStep t) (.live ⟨d, h, n, r⟩) deeds q) (hq : ∀ x, q ≠ .live x) :
    ∃ use rest, deeds = use ++ destroyed d h t n :: rest ∧ (∀ x ∈ rest, ¬ x.OfStream t) ∧
      (∀ x ∈ use, x.OfStream t → x.Plays t n) ∧ StopsFrom r t n use := by
  induction deeds generalizing r with
  | nil => exact absurd (Path.nil_iff.mp hdeeds).symm (hq _)
  | cons x deeds ih =>
    obtain ⟨p, hx, hrest⟩ := Path.cons_iff.mp hdeeds
    -- every deed but the last one leaves the guard alive, running or not
    have hlive {r' : Bool} (hp : p = .live ⟨d, h, n, r'⟩) (hplays : x.OfStream t → x.Plays t n)
        (hstop : x = stopped t n ∨ x = notStopped t n → r = true)
        (hstart : r' = true → x = started t n ∨ (r = true ∧ x ≠ stopped t n)) :
        ∃ use rest, x :: deeds = use ++ destroyed d h t n :: rest ∧
          (∀ x ∈ rest, ¬ x.OfStream t) ∧ (∀ x ∈ use, x.OfStream t → x.Plays t n) ∧
            StopsFrom r t n use := by
      obtain ⟨use, rest, rfl, hafter, huse, hstops⟩ := ih (hp ▸ hrest)
      exact ⟨x :: use, rest, rfl, hafter, List.forall_mem_cons.mpr ⟨hplays, huse⟩,
        hstops.cons hstop hstart⟩
    rcases streamStep_live hx with ⟨rfl, rfl⟩ | ⟨rfl, hp⟩ | ⟨rfl, rfl, hp⟩ | ⟨rfl, rfl, hp⟩ |
      ⟨hne, hne', hplays, hp⟩
    · exact ⟨[], deeds, rfl, not_ofStream_of_gone hrest, by simp, by simp [StopsFrom]⟩
    · exact hlive hp (fun _ => ⟨rfl, rfl⟩) (by simp) (fun _ => .inl rfl)
    · exact hlive hp (fun _ => ⟨rfl, rfl⟩) (fun _ => rfl) (by simp)
    · exact hlive hp (fun _ => ⟨rfl, rfl⟩) (fun _ => rfl) (fun _ => .inr ⟨rfl, by simp⟩)
    · exact hlive hp hplays (by simp [hne, hne']) (fun hr => .inr ⟨hr, hne⟩)

/-- A stream's guard that does anything, and is not left alive, has a life. -/
theorem streamLife_of_path {q : Phase Held} (h : Path (streamStep t) .unborn deeds q)
    (hq : ∀ x, q ≠ .live x) (hsome : ∃ x ∈ deeds, x.OfStream t) : StreamLife t deeds := by
  induction deeds with
  | nil => simp at hsome
  | cons x deeds ih =>
    obtain ⟨p, hx, hrest⟩ := Path.cons_iff.mp h
    rcases streamStep_unborn hx with ⟨d, i, n, rfl, rfl⟩ | ⟨rfl, hnot⟩
    · obtain ⟨use, rest, rfl, hafter, huse, hstops⟩ := destroyed_of_live hrest hq
      refine ⟨[], d, i, n, use, rest, rfl, hafter, huse, fun before y after heq hy => ?_⟩
      simpa using hstops before y after heq hy
    · obtain ⟨y, hy, hyt⟩ := hsome
      obtain rfl | hy := List.mem_cons.mp hy
      · exact absurd hyt hnot
      · obtain ⟨before, d, i, n, use, rest, rfl, hout, huse⟩ := ih hrest ⟨y, hy, hyt⟩
        exact ⟨x :: before, d, i, n, use, rest, rfl, List.forall_mem_cons.mpr ⟨hnot, hout⟩,
          huse⟩

end Deed

/-! ## Posted deeds -/

namespace Ledger

variable {L M : Ledger} {deeds : List Deed}

theorem path_device (h : Path Posts L deeds M) (d : Nat) :
    Path (deviceStep d) (L.device d) deeds (M.device d) := by
  induction h with
  | nil => exact .nil _
  | cons hx _ ih => exact .cons (hx.1 d) ih

theorem path_stream (h : Path Posts L deeds M) (t : Nat) :
    Path (streamStep t) (L.stream t) deeds (M.stream t) := by
  induction h with
  | nil => exact .nil _
  | cons hx _ ih => exact .cons (hx.2 t) ih

theorem exists_deeds {es : List (Event Host)} (h : Path Books L es M) :
    ∃ deeds, List.Forall₂ Deed.Tells es deeds ∧ Path Posts L deeds M := by
  induction h with
  | nil L => exact ⟨[], .nil, .nil L⟩
  | cons hev _ ih =>
    obtain ⟨x, htells, hposts⟩ := hev
    obtain ⟨deeds, hall, hpath⟩ := ih
    exact ⟨x :: deeds, .cons htells hall, .cons hposts hpath⟩

end Ledger
end RadioBench
