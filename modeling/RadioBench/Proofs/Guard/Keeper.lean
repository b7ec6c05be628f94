/-
Two accounts of one stream.

A guard knows of its stream whether it runs and which format its samples have.  The driver has
its own record of that, in an entry for the handle.  The two are changed in different places:
the driver changes its entry while it serves a request, and the guard follows once it has seen
the answer.

A driver is looked at from outside, as a keeper of entries: what an event makes of an entry is
told from the event alone.  The guard can follow because it sees every event that matters.  It
need not see those that name other streams, and these may come between any two of its own.
-/
import RadioBench.Proofs.Guard.ReceiveLoop
import RadioBench.Proofs.Prog.Partway

namespace RadioBench

open Prog

/-! ## Entries and events -/

/-- Whether a stream runs, and the format of its samples. -/
structure Standing where
  running : Bool
  format : DataFormat
  deriving DecidableEq, Repr

/-- The stream as its guard knows it. -/
def Stream.standing (s : Stream) : Standing := ⟨s.running, s.config.dataFormat⟩

/-- The stream that a request names, if it names one. -/
def Request.stream? : Request → Option StreamHandle
  | .destroyStream _ n => some n
  | .startStream n => some n
  | .stopStream n => some n
  | .recvStream n _ _ _ => some n
  | .sendStream n _ _ _ _ => some n
  | .streamStatus n => some n
  | _ => none

namespace Event

def stream? : Event Host → Option StreamHandle
  | ⟨.inl r, _⟩ => r.stream?
  | ⟨.inr _, _⟩ => none

/-- The event asks to destroy the stream. -/
def Destroys (n : StreamHandle) (e : Event Host) : Prop :=
  ∃ d, e.op = .inl (.destroyStream d n)

/-- What the event makes of the entry for the stream. -/
def shift (n : StreamHandle) : Event Host → Option Standing → Option Standing
  | ⟨.inl (.setupStream _ config), .ok m⟩, x =>
    if m = n then some ⟨false, config.dataFormat⟩ else x
  | ⟨.inl (.startStream m), .ok _⟩, x =>
    if m = n then x.map fun e => { e with running := true } else x
  | ⟨.inl (.stopStream m), .ok _⟩, x =>
    if m = n then x.map fun e => { e with running := false } else x
  | _, x => x

/-- An entry that is there stays there. -/
theorem exists_shift (n : StreamHandle) (e : Event Host) (x : Standing) :
    ∃ y, e.shift n (some x) = some y := by
  unfold shift
  split
  · split
    · exact ⟨_, rfl⟩
    · exact ⟨x, rfl⟩
  · split
    · exact ⟨_, rfl⟩
    · exact ⟨x, rfl⟩
  · split
    · exact ⟨_, rfl⟩
    · exact ⟨x, rfl⟩
  · exact ⟨x, rfl⟩

/-- The event leaves the entry for the stream as it is. -/
def Neutral (n : StreamHandle) (e : Event Host) : Prop :=
  ¬ e.Destroys n ∧ ∀ x, e.shift n x = x

end Event

/-- What the events make of the entry for the stream, one after the other. -/
def shifts (n : StreamHandle) (es : List (Event Host)) (x : Option Standing) : Option Standing :=
  es.foldl (fun y e => e.shift n y) x

theorem shifts_of_neutral {n : StreamHandle} {es : List (Event Host)}
    (h : ∀ e ∈ es, e.Neutral n) (x : Option Standing) : shifts n es x = x := by
  induction es with
  | nil => rfl
  | cons e es ih =>
    obtain ⟨he, hrest⟩ := List.forall_mem_cons.mp h
    rw [shifts, List.foldl_cons, he.2]
    exact ih hrest

/-! ## Keepers -/

/-- How a driver answers, and the entries that it has for streams meanwhile. -/
structure Keeper (σ : Type) where
  /-- An event may lead from one state to another. -/
  rule : Event Host → σ → σ → Prop
  /-- What is done to the driver by other means than requests. -/
  control : σ → σ → Prop
  valid : σ → Prop
  entryAt? : σ → StreamHandle → Option Standing
  valid_of_rule : ∀ {e s t}, rule e s t → valid s → valid t
  valid_of_control : ∀ {s t}, control s t → valid s → valid t
  entry_of_rule : ∀ {e s t n}, rule e s t → ¬ e.Destroys n → entryAt? t n = e.shift n (entryAt? s n)
  entry_of_control : ∀ {s t n}, control s t → entryAt? t n = entryAt? s n
  /-- A handle that has an entry is not given out. -/
  fresh : ∀ {s t d config n}, valid s →
    rule ⟨.inl (.setupStream d config), (.ok n : Except Error StreamHandle)⟩ s t →
      entryAt? s n = none

/-- What happens to a driver while one of its streams is used through a guard. -/
inductive Traffic
  | own (e : Event Host)
  | foreign (e : Event Host)
  | control

def Traffic.own? : Traffic → Option (Event Host)
  | own e => some e
  | _ => none

/-- The events of the guard. -/
def Traffic.owns (xs : List Traffic) : List (Event Host) := xs.filterMap own?

namespace Keeper

variable {σ : Type} (K : Keeper σ)

/-- Whatever is not of the guard does not name its stream. -/
def Carries (n : StreamHandle) : Traffic → σ → σ → Prop
  | .own e, s, t => K.rule e s t
  | .foreign e, s, t => e.stream? ≠ some n ∧ K.rule e s t
  | .control, s, t => K.control s t

variable {K} {s t : σ} {n : StreamHandle} {x : Standing} {xs : List Traffic}

/-- What does not name a stream has no part in its entry. -/
theorem entry_of_foreign {e : Event Host} (hs : K.valid s) (hx : K.entryAt? s n = some x)
    (hn : e.stream? ≠ some n) (he : K.rule e s t) : K.entryAt? t n = some x := by
  have hdestroys : ¬ e.Destroys n := by
    rintro ⟨d, hop⟩
    obtain ⟨o, a⟩ := e
    subst hop
    exact hn rfl
  rw [K.entry_of_rule he hdestroys, ← hx]
  obtain ⟨o, a⟩ := e
  cases o with
  | inr o => rfl
  | inl r =>
    cases r with
    | setupStream d config =>
      cases (a : Except Error StreamHandle) with
      | error e => rfl
      | ok m =>
        -- a handle that is given out has no entry, so it is not this one
        have hnone := K.fresh hs he
        have hm : m ≠ n := by
          rintro rfl
          rw [hnone] at hx
          cases hx
        exact if_neg hm
    | startStream m =>
      have hm : m ≠ n := fun hm => hn (congrArg some hm)
      cases (a : Except Error Unit) with
      | error e => rfl
      | ok u => exact if_neg hm
    | stopStream m =>
      have hm : m ≠ n := fun hm => hn (congrArg some hm)
      cases (a : Except Error Unit) with
      | error e => rfl
      | ok u => exact if_neg hm
    | _ => rfl

/-- The entry of a stream follows the events of its guard, whatever comes between them. -/
theorem entry_of_path (hpath : Path (K.Carries n) s xs t) (hs : K.valid s)
    (hx : K.entryAt? s n = some x) (hkept : ∀ e ∈ Traffic.owns xs, ¬ e.Destroys n) :
    K.entryAt? t n = shifts n (Traffic.owns xs) (some x) ∧ K.valid t := by
  induction hpath generalizing x with
  | nil s => exact ⟨hx, hs⟩
  | @cons y ys s t u hy hpath ih =>
    cases y with
    | own e =>
      obtain ⟨he, hrest⟩ := List.forall_mem_cons.mp hkept
      obtain ⟨y, hy'⟩ := e.exists_shift n x
      have hentry := K.entry_of_rule hy he
      rw [hx, hy'] at hentry
      have hlater := ih (K.valid_of_rule hy hs) hentry hrest
      rw [← hy'] at hlater
      exact hlater
    | foreign e =>
      obtain ⟨hn, he⟩ := hy
      exact ih (K.valid_of_rule he hs) (entry_of_foreign hs hx hn he) hkept
    | control =>
      exact ih (K.valid_of_control hy hs) ((K.entry_of_control hy).trans hx) hkept

end Keeper

/-! ## Uses of a guard -/

/-- What can be done with a guard that is not given back. -/
inductive Stream.Use
  | start
  | stop
  | recv (buffer : SampleBuffer) (info : Option StreamMeta) (timeout : Duration)
  | send (buffer : SampleBuffer) (count : Nat) (info : Option StreamMeta) (timeout : Duration)
  | status
  | receiveFor (budget : Nat) (buffer : SampleBuffer) (timing : Timing)

namespace Stream

variable {s : Stream} {es : List (Event Host)} {q : Prog Host Stream}

/-- A start or a stop that fails leaves the guard as it was. -/
def orElse (s : Stream) : Except Error Stream → Stream
  | .ok s' => s'
  | .error _ => s

/-- The use of a guard.  It ends with the guard as it is then. -/
def use (s : Stream) : Use → Prog Host Stream
  | .start => do
    let r ← s.start.run
    pure (s.orElse r)
  | .stop => do
    let r ← s.stop.run
    pure (s.orElse r)
  | .recv buffer info timeout => do
    let _ ← s.recv buffer info timeout
    pure s
  | .send buffer count info timeout => do
    let _ ← (s.send buffer count info timeout).run
    pure s
  | .status => do
    let _ ← s.status.run
    pure s
  | .receiveFor budget buffer timing => do
    let _ ← (s.receiveFor budget buffer timing).run
    pure s

/-- The guard at a point of its use, when so much is left of the use. -/
def midway (s : Stream) : Prog Host Stream → Stream
  | .done s' => s'
  | _ => s

/-! Most uses ask for nothing that could change the entry. -/

variable {n : StreamHandle}

theorem neutral_ambient {o : Ambient} (a : Host.Reply (.inr o)) :
    Event.Neutral n ⟨.inr o, a⟩ := by
  constructor
  · rintro ⟨d, hop⟩
    cases hop
  · intro x
    rfl

theorem neutral_notes {notes : List (Event Host)} (h : Notes notes) :
    ∀ e ∈ notes, e.Neutral n := by
  intro ev hev
  obtain ⟨entry, rfl⟩ := h ev hev
  exact neutral_ambient _

theorem asks_recv {buffer : SampleBuffer} {info : Option StreamMeta} {timeout : Duration} :
    Asks (Event.Neutral n) (s.recv buffer info timeout) := by
  refine .op fun a => ⟨?_, fun _ => rfl⟩
  rintro ⟨d, hop⟩
  cases hop

theorem asks_send {buffer : SampleBuffer} {count : Nat} {info : Option StreamMeta}
    {timeout : Duration} : Asks (Event.Neutral n) (s.send buffer count info timeout).run := by
  refine .op fun a => ⟨?_, fun _ => rfl⟩
  rintro ⟨d, hop⟩
  cases hop

theorem asks_status : Asks (Event.Neutral n) s.status.run := by
  refine .op fun a => ⟨?_, fun _ => rfl⟩
  rintro ⟨d, hop⟩
  cases hop

theorem asks_now : Asks (Event.Neutral n) (Attempt.always Host.now).run :=
  .lift (.op neutral_ambient)

theorem asks_line (text : String) : Asks (Event.Neutral n) (Attempt.line text).run := by
  refine .ask neutral_ambient fun w => ?_
  cases (w : Except String Unit) with
  | ok u => exact .done _
  | error message => exact .done _

theorem asks_announce : Asks (Event.Neutral n) s.announce.run :=
  .andThen asks_status fun _ => .andThen (asks_line _) fun _ => .andThen (asks_line _) fun _ =>
    .done _

theorem asks_turn {timing : Timing} {watch : Stopwatch} {p : Progress} :
    Asks (Event.Neutral n) (s.turn timing watch p).run := by
  have htake : Asks (Event.Neutral n) (s.take timing.timeout p).run :=
    .andThen (.lift asks_recv) fun got => .andThen (.ofExcept _) fun _ => .done _
  refine .andThen htake fun p' => .andThen asks_now fun now => ?_
  by_cases hdue : timing.interval < watch.elapsed now - p'.last
  · rw [if_pos hdue]
    exact .andThen asks_announce fun _ => .done _
  · rw [if_neg hdue]
    exact .done _

theorem asks_pump {timing : Timing} {watch : Stopwatch} {budget : Nat} {p : Progress} :
    Asks (Event.Neutral n) (s.pump timing watch budget p).run := by
  induction budget generalizing p with
  | zero =>
    rw [pump_zero]
    refine .andThen asks_now fun head => ?_
    by_cases hgo : watch.elapsed head < timing.duration
    · rw [if_pos hgo]
      exact .lift .exhausted
    · rw [if_neg hgo]
      exact .done _
  | succ budget ih =>
    rw [pump_succ]
    refine .andThen asks_now fun head => ?_
    by_cases hgo : watch.elapsed head < timing.duration
    · rw [if_pos hgo]
      exact .andThen asks_turn fun _ => ih
    · rw [if_neg hgo]
      exact .done _

theorem asks_receiveFor {budget : Nat} {buffer : SampleBuffer} {timing : Timing} :
    Asks (Event.Neutral n) (s.receiveFor budget buffer timing).run :=
  .andThen asks_now fun _ => .andThen asks_pump fun _ => .andThen asks_now fun _ => .done _

/-! ## The guard and the entry -/

/-- The guard at a point of its use is what the events so far make of an entry that was like it. -/
def Follows (s : Stream) (es : List (Event Host)) (q : Prog Host Stream) : Prop :=
  (∀ e ∈ es, ¬ e.Destroys s.handle) ∧
    shifts s.handle es (some s.standing) = some (s.midway q).standing ∧
    (s.midway q).handle = s.handle

theorem follows_of_neutral {α : Type} {p : Prog Host α} (hp : Asks (Event.Neutral s.handle) p)
    (h : (p >>= fun _ => .done s).Goes es q) : s.Follows es q := by
  have hneutral : ∀ e ∈ es, e.Neutral s.handle := (hp.bind fun _ => .done s) es q h
  have hmidway : s.midway q = s := by
    cases q with
    | done s' =>
      obtain ⟨a, es₁, es₂, rfl, -, h₂⟩ := yields_bind_iff.mp (goes_done_iff_yields.mp h)
      exact (yields_done_iff.mp h₂).2.symm
    | ask o k => rfl
    | exhausted => rfl
  rw [Follows, hmidway]
  exact ⟨fun e he => (hneutral e he).1, shifts_of_neutral hneutral _, rfl⟩

/-- A use that starts or stops the stream makes one request, and the guard goes by the answer. -/
theorem follows_switch {r : Request} {k : r.Answer → Prog Host Stream} (next : r.Answer → Stream)
    (hk : ∀ a, k a = .done (next a)) (hdestroy : ∀ a, ¬ Event.Destroys s.handle ⟨.inl r, a⟩)
    (hnext : ∀ a, Event.shift s.handle ⟨.inl r, a⟩ (some s.standing) = some (next a).standing ∧
      (next a).handle = s.handle) (h : Goes (S := Host) (.ask (.inl r) k) es q) :
    s.Follows es q := by
  rcases goes_ask_iff.mp h with ⟨rfl, rfl⟩ | ⟨a, rest, rfl, hrest⟩
  · exact ⟨fun e he => absurd he List.not_mem_nil, rfl, rfl⟩
  · rw [hk a] at hrest
    obtain ⟨rfl, rfl⟩ := goes_done_iff.mp hrest
    exact ⟨List.forall_mem_singleton.mpr (hdestroy a), hnext a⟩

/-- A use keeps the guard up to date, at its end and at every point before. -/
theorem follows_use (u : Use) (h : (s.use u).Goes es q) : s.Follows es q := by
  cases u with
  | start =>
    refine follows_switch (r := .startStream s.handle) (fun a : Except Error Unit =>
      s.orElse (a.map fun _ => { s with running := true })) (fun a => ?_) ?_ (fun a => ?_) h
    · cases (a : Except Error Unit) <;> rfl
    · rintro a ⟨d, hop⟩
      cases hop
    · cases (a : Except Error Unit) with
      | ok u => exact ⟨if_pos rfl, rfl⟩
      | error e => exact ⟨rfl, rfl⟩
  | stop =>
    cases hrunning : s.running with
    | false =>
      -- the guard refuses by itself
      have hrefused : s.use .stop = .done s := by
        simp only [use, stop, hrunning, Bool.false_eq_true, if_false]
        rfl
      rw [hrefused] at h
      obtain ⟨rfl, rfl⟩ := goes_done_iff.mp h
      exact ⟨fun e he => absurd he List.not_mem_nil, rfl, rfl⟩
    | true =>
      simp only [use, stop, hrunning, if_true] at h
      refine follows_switch (r := .stopStream s.handle) (fun a : Except Error Unit =>
        s.orElse (a.map fun _ => { s with running := false })) (fun a => ?_) ?_ (fun a => ?_) h
      · cases (a : Except Error Unit) <;> rfl
      · rintro a ⟨d, hop⟩
        cases hop
      · cases (a : Except Error Unit) with
        | ok u => exact ⟨if_pos rfl, rfl⟩
        | error e => exact ⟨rfl, rfl⟩
  | recv buffer info timeout => exact follows_of_neutral asks_recv h
  | send buffer count info timeout => exact follows_of_neutral asks_send h
  | status => exact follows_of_neutral asks_status h
  | receiveFor budget buffer timing => exact follows_of_neutral asks_receiveFor h

end Stream

/-! ## Guards that are held -/

namespace Keeper

variable {σ : Type} (K : Keeper σ)

/-- The stream has been set up and not been given back, and so far it was used through its guard
alone.  Whatever else the driver was asked is anything that does not name the stream. -/
inductive Held : σ → Stream → Prop
  | setUp {d : Device} {config : StreamConfig} {stream : Stream} {xs : List Traffic} {s t : σ}
      (hs : K.valid s) (hes : (Stream.setup d config).run.Yields (Traffic.owns xs) (.ok stream))
      (hpath : Path (K.Carries stream.handle) s xs t) : Held t stream
  | use {stream stream' : Stream} {xs : List Traffic} {s t : σ} (u : Stream.Use)
      (h : Held s stream) (hes : (stream.use u).Yields (Traffic.owns xs) stream')
      (hpath : Path (K.Carries stream.handle) s xs t) : Held t stream'

variable {K} {s t : σ} {stream : Stream} {xs : List Traffic}

/-- The driver's entry is there and says what the guard says. -/
def Agrees (K : Keeper σ) (s : σ) (stream : Stream) : Prop :=
  K.entryAt? s stream.handle = some stream.standing

/-- The driver and the guard agree at every point of a use, if they agreed before. -/
theorem Agrees.midway (h : K.Agrees s stream) (hs : K.valid s) {u : Stream.Use}
    {q : Prog Host Stream} (hes : (stream.use u).Goes (Traffic.owns xs) q)
    (hpath : Path (K.Carries stream.handle) s xs t) :
    K.Agrees t (stream.midway q) ∧ K.valid t := by
  obtain ⟨hkept, hshifts, hhandle⟩ := Stream.follows_use u hes
  obtain ⟨hentry, ht⟩ := entry_of_path hpath hs h hkept
  rw [hshifts] at hentry
  rw [Agrees, hhandle]
  exact ⟨hentry, ht⟩

theorem valid_of_path {n : StreamHandle} (hpath : Path (K.Carries n) s xs t) (hs : K.valid s) :
    K.valid t := by
  refine hpath.invariant (fun y u v hy hu => ?_) hs
  cases y with
  | own e => exact K.valid_of_rule hy hu
  | foreign e => exact K.valid_of_rule hy.2 hu
  | control => exact K.valid_of_control hy hu

/-- An event of the guard is a step between two states on the way. -/
theorem exists_own_of_path {n : StreamHandle} {e : Event Host} {before after : List (Event Host)}
    (hpath : Path (K.Carries n) s xs t) (hxs : Traffic.owns xs = before ++ e :: after) :
    ∃ u v ys zs, Path (K.Carries n) s ys u ∧ Traffic.owns ys = before ∧ K.rule e u v ∧
      Path (K.Carries n) v zs t ∧ Traffic.owns zs = after := by
  obtain ⟨front, back, rfl, hfront, hback⟩ := List.filterMap_eq_append_iff.mp hxs
  obtain ⟨ys, y, zs, rfl, hys, hy, hzs⟩ := List.filterMap_eq_cons_iff.mp hback
  rw [← List.append_assoc] at hpath
  obtain ⟨u, hbefore, hafter⟩ := Path.append_iff.mp hpath
  obtain ⟨v, hown, hrest⟩ := Path.cons_iff.mp hafter
  have howns : Traffic.owns (front ++ ys) = before := by
    have hnone : ys.filterMap Traffic.own? = [] := List.filterMap_eq_nil_iff.mpr hys
    rw [Traffic.owns, List.filterMap_append, hfront, hnone, List.append_nil]
  cases y with
  | own e' =>
    obtain rfl : e' = e := Option.some.inj hy
    exact ⟨u, v, front ++ ys, zs, hbefore, howns, hown, hrest, hzs⟩
  | foreign e' => cases hy
  | control => cases hy

theorem agrees_of_setUp {d : Device} {config : StreamConfig} (hs : K.valid s)
    (hes : (Stream.setup d config).run.Yields (Traffic.owns xs) (.ok stream))
    (hpath : Path (K.Carries stream.handle) s xs t) : K.Agrees t stream ∧ K.valid t := by
  rcases Stream.of_yields_setup hes with ⟨n, text, hxs, hstream⟩ | ⟨e, -, hstream⟩
  · obtain rfl := Except.ok.inj hstream
    obtain ⟨u, v, ys, zs, hbefore, -, hown, hafter, hzs⟩ :=
      exists_own_of_path hpath (hxs.trans (List.nil_append _).symm)
    have hv : K.valid v := K.valid_of_rule hown (valid_of_path hbefore hs)
    have hentry : K.entryAt? v n = some ⟨false, config.dataFormat⟩ := by
      rw [K.entry_of_rule hown (by rintro ⟨d', hop⟩; cases hop)]
      exact if_pos rfl
    have hnote : ∀ e ∈ Traffic.owns zs, e.Neutral n := by
      rw [hzs]
      exact List.forall_mem_singleton.mpr (Stream.neutral_ambient _)
    have hkept := entry_of_path hafter hv hentry fun e he => (hnote e he).1
    rwa [shifts_of_neutral hnote] at hkept
  · cases hstream

theorem Held.agrees (h : K.Held s stream) : K.Agrees s stream ∧ K.valid s := by
  induction h with
  | setUp hs hes hpath => exact agrees_of_setUp hs hes hpath
  | use u _ hes hpath ih => exact ih.1.midway ih.2 (goes_done_iff_yields.mpr hes) hpath

/-- The driver agrees with the guard, and goes on to agree with it until the end of the next use. -/
def AgreesThroughout (K : Keeper σ) (s : σ) (stream : Stream) : Prop :=
  K.Agrees s stream ∧ ∀ u xs q t, (stream.use u).Goes (Traffic.owns xs) q →
    Path (K.Carries stream.handle) s xs t → K.Agrees t (stream.midway q)

/-- As long as a guard is held, the driver agrees with it. -/
theorem Held.agreesThroughout (h : K.Held s stream) : K.AgreesThroughout s stream :=
  ⟨h.agrees.1, fun _ _ _ _ hes hpath => (h.agrees.1.midway h.agrees.2 hes hpath).1⟩

/-! ## Guards that are given back -/

/-- The event asks to destroy the guard's stream, with this answer. -/
def destruction (stream : Stream) (r : Except Error Unit) : Event Host :=
  ⟨.inl (.destroyStream stream.device stream.handle), r⟩

/-- A guard is given back by one request to destroy its stream.  A stop comes before if the guard
is running. -/
theorem of_yields_teardown {es : List (Event Host)}
    (h : (∃ r, stream.destroy.run.Yields es r) ∨ stream.drop.Yields es ()) :
    ∃ before r after, es = before ++ destruction stream r :: after ∧ Notes after ∧
      ((stream.running = false ∧ before = []) ∨
        ∃ a notes, before = ⟨.inl (.stopStream stream.handle), a⟩ :: notes ∧ Notes notes) := by
  have hdestroy : ∀ {es r}, stream.destroy.run.Yields es r →
      ∃ before, es = before ++ [destruction stream r] ∧
        ((stream.running = false ∧ before = []) ∨
          ∃ a notes, before = ⟨.inl (.stopStream stream.handle), a⟩ :: notes ∧ Notes notes) := by
    intro es r hes
    rcases Stream.of_yields_destroy hes with ⟨-, a, notes, hnotes, rfl⟩ | ⟨hrunning, rfl⟩
    · exact ⟨_ :: notes, rfl, .inr ⟨a, notes, rfl, hnotes⟩⟩
    · exact ⟨[], rfl, .inl ⟨hrunning, rfl⟩⟩
  rcases h with ⟨r, hes⟩ | hes
  · obtain ⟨before, rfl, hbefore⟩ := hdestroy hes
    exact ⟨before, r, [], rfl, notes_nil, hbefore⟩
  · obtain ⟨r, es', notes, rfl, hes', hnotes⟩ := Stream.of_yields_drop hes
    obtain ⟨before, rfl, hbefore⟩ := hdestroy hes'
    exact ⟨before, r, notes, List.append_assoc _ _ _, hnotes, hbefore⟩

/-- While a guard is given back, its stream is at rest when it comes to be destroyed, unless the
stop has failed. -/
theorem Held.rests (h : K.Held s stream)
    (hes : (∃ r, stream.destroy.run.Yields (Traffic.owns xs) r) ∨
      stream.drop.Yields (Traffic.owns xs) ())
    (hpath : Path (K.Carries stream.handle) s xs t) {r : Except Error Unit}
    (hr : destruction stream r ∈ Traffic.owns xs) :
    ∃ u v, K.rule (destruction stream r) u v ∧
      ((∃ e, ⟨.inl (.stopStream stream.handle), (.error e : Except Error Unit)⟩ ∈
          Traffic.owns xs) ∨
        K.entryAt? u stream.handle = some ⟨false, stream.config.dataFormat⟩) := by
  obtain ⟨hagrees, hs⟩ := h.agrees
  obtain ⟨before, r', after, hxs, hafter, hbefore⟩ := of_yields_teardown hes
  have hnotes : ∀ notes, Notes notes → destruction stream r ∉ notes := by
    intro notes hnotes hmem
    obtain ⟨entry, hentry⟩ := hnotes _ hmem
    cases hentry
  have hnew : destruction stream r ∉ before := by
    rcases hbefore with ⟨-, rfl⟩ | ⟨a, notes, rfl, hquiet⟩
    · exact List.not_mem_nil
    · intro hmem
      rcases List.mem_cons.mp hmem with hstop | hlater
      · cases hstop
      · exact hnotes notes hquiet hlater
  have hlast : destruction stream r = destruction stream r' := by
    rw [hxs] at hr
    have hhere := (List.mem_append.mp hr).resolve_left hnew
    exact (List.mem_cons.mp hhere).resolve_right (hnotes after hafter)
  rw [hlast]
  obtain ⟨u, v, ys, zs, hys, hbeforeown, hrule, -, -⟩ := exists_own_of_path hpath hxs
  refine ⟨u, v, hrule, ?_⟩
  rcases hbefore with ⟨hrunning, rfl⟩ | ⟨a, notes, rfl, hquiet⟩
  · have hentry := (entry_of_path hys hs hagrees (by simp [hbeforeown])).1
    rw [hbeforeown, Stream.standing, hrunning] at hentry
    exact .inr hentry
  · have hneutral := Stream.neutral_notes (n := stream.handle) hquiet
    have hkept : ∀ e ∈ Traffic.owns ys, ¬ e.Destroys stream.handle := by
      rw [hbeforeown]
      refine List.forall_mem_cons.mpr ⟨?_, fun e he => (hneutral e he).1⟩
      rintro ⟨d, hop⟩
      cases hop
    have hentry := (entry_of_path hys hs hagrees hkept).1
    rw [hbeforeown] at hentry
    cases (a : Except Error Unit) with
    | error e =>
      refine .inl ⟨e, ?_⟩
      rw [hxs]
      exact List.mem_append_left _ List.mem_cons_self
    | ok v =>
      refine .inr (hentry.trans ((shifts_of_neutral hneutral _).trans ?_))
      exact if_pos rfl

end Keeper
end RadioBench
