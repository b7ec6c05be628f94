/-
What a smoke test leaves in the hands of the driver and of the native library.

At every stage of the test the driver's tables are those from before the test and, while
a device or a stream is held, one slot more.  The library has been asked for ownership
and given it back accordingly.  The tables free a slot before the library is asked, so
that it does not matter what the library answers.
-/
import RadioBench.Proofs.Native.Calls
import RadioBench.Proofs.Native.Slots
import RadioBench.Proofs.SmokeTest.Protocol

namespace RadioBench
namespace Native

open Prog

namespace Binding

variable {b b' : Binding} {ms : List (Event Machine)}

/-! ## The requests that change the tables

Each is refused without a call, or makes one call, with nothing but asides after it. -/

theorem of_yields_keep {α : Type} {p : Action α} {r : Except Error α}
    (h : (b.keep p).Yields ms (r, b')) : p.run.Yields ms r ∧ b' = b := by
  obtain ⟨⟨x, hp, rfl⟩, rfl⟩ := yields_keeping_iff.mp h
  exact ⟨hp, rfl⟩

theorem of_yields_commit {α β : Type} {p : Action α} {f : α → β × Binding} {r : Except Error β}
    (h : (b.commit p f).Yields ms (r, b')) :
    (∃ a, p.run.Yields ms (.ok a) ∧ r = .ok (f a).1 ∧ b' = (f a).2) ∨
      ∃ e, p.run.Yields ms (.error e) ∧ r = .error e ∧ b' = b := by
  obtain ⟨x, ms₁, ms₂, rfl, h₁, h₂⟩ := yields_bind_iff.mp h
  cases x with
  | ok a =>
    obtain ⟨rfl, rfl, rfl⟩ := yields_pair_iff.mp h₂
    exact .inl ⟨a, by simpa using h₁, rfl, rfl⟩
  | error e =>
    obtain ⟨rfl, rfl, rfl⟩ := yields_pair_iff.mp h₂
    exact .inr ⟨e, by simpa using h₁, rfl, rfl⟩

theorem openDevice_cases {info : String} {r : Except Error DeviceHandle}
    (hes : (b.openDevice info).Yields ms (r, b')) :
    (r = .error .invalidString ∧ ms = [] ∧ b' = b) ∨
    ∃ a : Reply (Option DeviceRef), ∃ rest, ms = ⟨.inl (.openDevice info), a⟩ :: rest ∧
      (∀ ev ∈ rest, Aside ev) ∧
      ((a.code = 0 ∧ r = .ok ⟨(b.devices.insert (Option.getD a.out .null)).1⟩ ∧
          b' = { b with devices := (b.devices.insert (Option.getD a.out .null)).2 }) ∨
        (a.code ≠ 0 ∧ (∃ message, r = .error (.failed "open" message)) ∧ b' = b)) := by
  rw [openDevice] at hes
  split at hes
  · obtain ⟨rfl, rfl, rfl⟩ := yields_pair_iff.mp hes
    exact .inl ⟨rfl, rfl, rfl⟩
  · rcases of_yields_commit hes with ⟨d, hd, rfl, rfl⟩ | ⟨e, he, rfl, rfl⟩
    · obtain ⟨a, rest, rfl, hrest, ⟨hcode, hx⟩ | ⟨-, message, hx⟩⟩ := of_yields_succeed hd
      · obtain rfl := Except.ok.inj hx
        exact .inr ⟨a, rest, rfl, hrest, .inl ⟨hcode, rfl, rfl⟩⟩
      · cases hx
    · obtain ⟨a, rest, rfl, hrest, ⟨-, hx⟩ | ⟨hcode, message, hx⟩⟩ := of_yields_succeed he
      · cases hx
      · obtain rfl := Except.error.inj hx
        exact .inr ⟨a, rest, rfl, hrest, .inr ⟨hcode, ⟨message, rfl⟩, rfl⟩⟩

/-- The slot is freed, whatever the library answers. -/
theorem closeDevice_cases {h : DeviceHandle} {r : Except Error Unit}
    (hes : (b.closeDevice h).Yields ms (r, b')) :
    (r = .error .invalidHandle ∧ ms = [] ∧ b' = b ∧ b.devices.get? h.index = none) ∨
    ∃ d, ∃ a : Reply Unit, ∃ rest, b.devices.get? h.index = some d ∧
      r ≠ .error .invalidHandle ∧ ms = ⟨.inl (.closeDevice d), a⟩ :: rest ∧
      (∀ ev ∈ rest, Aside ev) ∧ b' = { b with devices := b.devices.erase h.index } := by
  rw [closeDevice] at hes
  cases hd : b.devices.get? h.index with
  | none =>
    rw [hd] at hes
    obtain ⟨rfl, rfl, rfl⟩ := yields_pair_iff.mp hes
    exact .inl ⟨rfl, rfl, rfl, rfl⟩
  | some d =>
    rw [hd] at hes
    obtain ⟨hclose, rfl⟩ := of_yields_keep hes
    obtain ⟨a, rest, rfl, hrest, hr⟩ := of_yields_succeed hclose
    refine .inr ⟨d, a, rest, rfl, fun hrefused => ?_, rfl, hrest, rfl⟩
    rcases hr with ⟨-, rfl⟩ | ⟨-, message, rfl⟩
    · cases hrefused
    · cases hrefused

theorem setupStream_cases {h : DeviceHandle} {config : StreamConfig}
    {r : Except Error StreamHandle} (hes : (b.setupStream h config).Yields ms (r, b')) :
    (r = .error .invalidHandle ∧ ms = [] ∧ b' = b ∧ b.devices.get? h.index = none) ∨
    ∃ d, ∃ a : Reply (Option Nat), ∃ rest, b.devices.get? h.index = some d ∧
      ms = ⟨.inl (.setupStream d ⟨b.blocks, 0⟩ (setupOf config)), a⟩ :: rest ∧
      (∀ ev ∈ rest, Aside ev) ∧
      ((a.code = 0 ∧ ∃ slot : StreamSlot,
          slot = ⟨h, config.dataFormat, false, ⟨b.blocks, Option.getD a.out 0⟩⟩ ∧
          r = .ok ⟨(b.streams.insert slot).1⟩ ∧
          b' = { b with streams := (b.streams.insert slot).2, blocks := b.blocks + 1 }) ∨
        (a.code ≠ 0 ∧ (∃ message, r = .error (.failed "setup_stream" message)) ∧
          b' = { b with blocks := b.blocks + 1 })) := by
  rw [setupStream] at hes
  cases hd : b.devices.get? h.index with
  | none =>
    rw [hd] at hes
    obtain ⟨rfl, rfl, rfl⟩ := yields_pair_iff.mp hes
    exact .inl ⟨rfl, rfl, rfl, rfl⟩
  | some d =>
    rw [hd] at hes
    refine .inr ⟨d, ?_⟩
    rcases of_yields_commit hes with ⟨number, hn, rfl, rfl⟩ | ⟨e, he, rfl, rfl⟩
    · obtain ⟨a, rest, rfl, hrest, ⟨hcode, hx⟩ | ⟨-, message, hx⟩⟩ := of_yields_succeed hn
      · obtain rfl := Except.ok.inj hx
        exact ⟨a, rest, rfl, rfl, hrest, .inl ⟨hcode, _, rfl, rfl, rfl⟩⟩
      · cases hx
    · obtain ⟨a, rest, rfl, hrest, ⟨-, hx⟩ | ⟨hcode, message, hx⟩⟩ := of_yields_succeed he
      · cases hx
      · obtain rfl := Except.error.inj hx
        exact ⟨a, rest, rfl, rfl, hrest, .inr ⟨hcode, ⟨message, rfl⟩, rfl⟩⟩

/-- A stream is destroyed when both handles are in use, and no question asked whether the one
belongs to the other.  The slot is freed, whatever the library answers. -/
theorem destroyStream_cases {h : DeviceHandle} {n : StreamHandle} {r : Except Error Unit}
    (hes : (b.destroyStream h n).Yields ms (r, b')) :
    (r = .error .invalidHandle ∧ ms = [] ∧ b' = b ∧
      (b.devices.get? h.index = none ∨ b.streams.get? n.index = none)) ∨
    ∃ d slot, ∃ a : Reply Unit, ∃ rest, b.devices.get? h.index = some d ∧
      b.streams.get? n.index = some slot ∧ r ≠ .error .invalidHandle ∧
      ms = ⟨.inl (.destroyStream d slot.block), a⟩ :: rest ∧ (∀ ev ∈ rest, Aside ev) ∧
      b' = { b with streams := b.streams.erase n.index } := by
  rw [destroyStream] at hes
  cases hd : b.devices.get? h.index with
  | none =>
    rw [hd] at hes
    obtain ⟨rfl, rfl, rfl⟩ := yields_pair_iff.mp hes
    exact .inl ⟨rfl, rfl, rfl, .inl rfl⟩
  | some d =>
    cases hn : b.streams.get? n.index with
    | none =>
      simp only [hd, hn] at hes
      obtain ⟨rfl, rfl, rfl⟩ := yields_pair_iff.mp hes
      exact .inl ⟨rfl, rfl, rfl, .inr rfl⟩
    | some slot =>
      simp only [hd, hn] at hes
      obtain ⟨hdestroy, rfl⟩ := of_yields_keep hes
      obtain ⟨a, rest, rfl, hrest, hr⟩ := of_yields_succeed hdestroy
      refine .inr ⟨d, slot, a, rest, rfl, rfl, fun hrefused => ?_, rfl, hrest, rfl⟩
      rcases hr with ⟨-, rfl⟩ | ⟨-, message, rfl⟩
      · cases hrefused
      · cases hrefused

/-! What they change, in tables and in ownership. -/

theorem of_yields_openDevice {info : String} {r : Except Error DeviceHandle}
    (h : (b.openDevice info).Yields ms (r, b')) :
    (∃ h d, r = .ok h ∧ b.devices.Gains b'.devices h.index d ∧ b'.streams = b.streams ∧
      transfers ms = [.opened d]) ∨
    ∃ e, r = .error e ∧ b' = b ∧ transfers ms = [] := by
  rcases openDevice_cases h with
    ⟨rfl, rfl, rfl⟩ | ⟨a, rest, rfl, hrest, ⟨hcode, rfl, rfl⟩ | ⟨hcode, ⟨message, rfl⟩, rfl⟩⟩
  · exact .inr ⟨_, rfl, rfl, rfl⟩
  · refine .inl ⟨_, _, rfl, Slots.insert_gains _ _, rfl, ?_⟩
    simp [transfer?, hcode, transfers_aside hrest]
  · refine .inr ⟨_, rfl, rfl, ?_⟩
    simp [transfer?, hcode, transfers_aside hrest]

theorem of_yields_closeDevice {h : DeviceHandle} {r : Except Error Unit} {d : DeviceRef}
    (hd : b.devices.get? h.index = some d) (hes : (b.closeDevice h).Yields ms (r, b')) :
    b' = { b with devices := b.devices.erase h.index } ∧ transfers ms = [.closed d] := by
  rcases closeDevice_cases hes with ⟨-, -, -, hdead⟩ | ⟨e, a, rest, he, -, rfl, hrest, rfl⟩
  · rw [hd] at hdead
    cases hdead
  · obtain rfl : d = e := Option.some.inj (hd.symm.trans he)
    exact ⟨rfl, by simp [transfer?, transfers_aside hrest]⟩

theorem of_yields_setupStream {h : DeviceHandle} {config : StreamConfig} {d : DeviceRef}
    {r : Except Error StreamHandle} (hd : b.devices.get? h.index = some d)
    (hes : (b.setupStream h config).Yields ms (r, b')) :
    b'.devices = b.devices ∧
      ((∃ n slot, r = .ok n ∧ b.streams.Gains b'.streams n.index slot ∧
        transfers ms = [.setUp d slot.block.serial]) ∨
      ∃ e, r = .error e ∧ b'.streams = b.streams ∧ transfers ms = []) := by
  rcases setupStream_cases hes with ⟨-, -, -, hdead⟩ | ⟨e, a, rest, he, rfl, hrest, hcall⟩
  · rw [hd] at hdead
    cases hdead
  obtain rfl : d = e := Option.some.inj (hd.symm.trans he)
  rcases hcall with ⟨hcode, slot, rfl, rfl, rfl⟩ | ⟨hcode, ⟨message, rfl⟩, rfl⟩
  · refine ⟨rfl, .inl ⟨_, _, rfl, Slots.insert_gains _ _, ?_⟩⟩
    simp [transfer?, hcode, transfers_aside hrest]
  · refine ⟨rfl, .inr ⟨_, rfl, rfl, ?_⟩⟩
    simp [transfer?, hcode, transfers_aside hrest]

theorem of_yields_destroyStream {h : DeviceHandle} {n : StreamHandle} {r : Except Error Unit}
    {d : DeviceRef} {slot : StreamSlot} (hd : b.devices.get? h.index = some d)
    (hn : b.streams.get? n.index = some slot)
    (hes : (b.destroyStream h n).Yields ms (r, b')) :
    b' = { b with streams := b.streams.erase n.index } ∧
      transfers ms = [.destroyed d slot.block.serial] := by
  rcases destroyStream_cases hes with
    ⟨-, -, -, hdead⟩ | ⟨e, now, a, rest, he, hnow, -, rfl, hrest, rfl⟩
  · rw [hd, hn] at hdead
    simp at hdead
  · obtain rfl : d = e := Option.some.inj (hd.symm.trans he)
    obtain rfl : slot = now := Option.some.inj (hn.symm.trans hnow)
    exact ⟨rfl, by simp [transfer?, transfers_aside hrest]⟩

theorem of_yields_running {n : StreamHandle} {running : Bool} {r : Except Error Unit}
    {operation : String} {f : StreamFunction} {g : f.Out → Unit}
    (hes : (b.commit (do b.succeed operation (.stream (← b.stream n).block f)) fun a =>
      (g a, b.setRunning n running)).Yields ms (r, b')) :
    (b' = b ∨ b' = b.setRunning n running) ∧ transfers ms = [] := by
  rcases of_yields_commit hes with ⟨a, ha, -, rfl⟩ | ⟨e, he, -, rfl⟩
  · exact ⟨.inr rfl, quiet_onStream n operation f _ _ ha⟩
  · exact ⟨.inl rfl, quiet_onStream n operation f _ _ he⟩

/-! ## The other requests -/

/-- The tables are as they were, and no ownership was moved. -/
def Unmoved (b b' : Binding) (ms : List (Event Machine)) : Prop :=
  b'.devices = b.devices ∧ b'.streams = b.streams ∧ transfers ms = []

theorem unmoved_keep {α : Type} {p : Action α} {r : Except Error α} (hp : Quiet p.run)
    (h : (b.keep p).Yields ms (r, b')) : Unmoved b b' ms := by
  obtain ⟨hp', rfl⟩ := of_yields_keep h
  exact ⟨rfl, rfl, hp _ _ hp'⟩

/-- A registration calls the library once.  Without a handler to register there is none
afterwards. -/
theorem of_yields_registerLog {handler : Option LogHandler}
    (h : (b.registerLog handler).Yields ms b') :
    b' = { b with handler := handler } ∧ ∃ a : Reply Unit, ∃ rest,
      ms = ⟨.inl (.registerLogHandler handler.isSome), a⟩ :: rest ∧ Passed rest := by
  cases handler with
  | none =>
    obtain ⟨a, ms₁, ms₂, rfl, h₁, h₂⟩ := yields_bind_iff.mp h
    obtain ⟨rfl, rfl⟩ := yields_done_iff.mp h₂
    obtain ⟨rest, rfl, hrest⟩ := of_yields_call h₁
    exact ⟨rfl, a, rest, by simp, hrest⟩
  | some handler =>
    obtain ⟨a, ms₁, ms₂, rfl, h₁, h₂⟩ := yields_bind_iff.mp h
    obtain ⟨rfl, rfl⟩ := yields_done_iff.mp h₂
    obtain ⟨rest, rfl, hrest⟩ := of_yields_call h₁
    exact ⟨rfl, a, rest, by simp, hrest⟩

end Binding

/-! ## What is held at a stage -/

/-- All that was taken was given back: nothing, a device, or a device with a stream on it. -/
def GivenBack (ts : List Transfer) : Prop :=
  ts = [] ∨ ∃ d, ts = [.opened d, .closed d] ∨
    ∃ k, ts = [.opened d, .setUp d k, .destroyed d k, .closed d]

/-- A device and a stream on it are held. -/
def HoldsStream (b : Binding) (h : DeviceHandle) (n : StreamHandle) (c : Binding)
    (ms : List (Event Machine)) : Prop :=
  ∃ d slot, b.devices.Gains c.devices h.index d ∧ b.streams.Gains c.streams n.index slot ∧
    transfers ms = [.opened d, .setUp d slot.block.serial]

/-- What the driver's tables hold at a stage more than before the test, and what moved. -/
def Custody (b : Binding) : SmokeTest.Stage → Binding × List (Event Machine) → Prop
  | .waiting, (c, ms) =>
    b.devices.Same c.devices ∧ b.streams.Same c.streams ∧ transfers ms = []
  | .opened h, (c, ms) => ∃ d, b.devices.Gains c.devices h.index d ∧
    b.streams.Same c.streams ∧ transfers ms = [.opened d]
  | .ready h n, (c, ms) => HoldsStream b h n c ms
  | .running h n, (c, ms) => HoldsStream b h n c ms
  | .stuck h n, (c, ms) => HoldsStream b h n c ms
  | .stopped h n, (c, ms) => HoldsStream b h n c ms
  | .destroyed h, (c, ms) => ∃ d k, b.devices.Gains c.devices h.index d ∧
    b.streams.Same c.streams ∧ transfers ms = [.opened d, .setUp d k, .destroyed d k]
  | .closed, (c, ms) =>
    b.devices.Same c.devices ∧ b.streams.Same c.streams ∧ GivenBack (transfers ms)

namespace Custody

variable {b c c' : Binding} {st : SmokeTest.Stage} {ms ts : List (Event Machine)}

theorem unmoved (h : Custody b st (c, ms)) (hc : c.Unmoved c' ts) :
    Custody b st (c', ms ++ ts) := by
  obtain ⟨hdevices, hstreams, hts⟩ := hc
  cases st <;>
    simpa only [Custody, HoldsStream, hdevices, hstreams, transfers_append, hts,
      List.append_nil] using h

/-- Whether the stream runs does not matter. -/
theorem setRunning {h : DeviceHandle} {n : StreamHandle} {running : Bool}
    (hc : HoldsStream b h n c ms) (hc' : c' = c ∨ c' = c.setRunning n running)
    (hts : transfers ts = []) : HoldsStream b h n c' (ms ++ ts) := by
  obtain ⟨d, slot, hdevice, hstream, hms⟩ := hc
  rcases hc' with rfl | rfl
  · exact ⟨d, slot, hdevice, hstream, by simp [hms, hts]⟩
  · exact ⟨d, _, hdevice, hstream.modify _, by simp [hms, hts]⟩

theorem destroyed {h : DeviceHandle} {n : StreamHandle} {r : Except Error Unit}
    (hc : HoldsStream b h n c ms) (hes : (c.destroyStream h n).Yields ts (r, c')) :
    Custody b (.destroyed h) (c', ms ++ ts) := by
  obtain ⟨d, slot, hdevice, hstream, hms⟩ := hc
  obtain ⟨rfl, hts⟩ := Binding.of_yields_destroyStream hdevice.2.1 hstream.2.1 hes
  exact ⟨d, slot.block.serial, hdevice, hstream.erase, by simp [hms, hts]⟩

theorem step {ev : Event Host} {st st' : SmokeTest.Stage} {x x' : Binding × List (Event Machine)}
    (hstep : SmokeTest.Stage.Step ev st st') (hmeans : Means Binding.operation ev x x')
    (hx : Custody b st x) : Custody b st' x' := by
  obtain ⟨c, ms⟩ := x
  obtain ⟨c', ms'⟩ := x'
  obtain ⟨ts, hts, hms⟩ := hmeans
  obtain rfl : ms' = ms ++ ts := hms
  cases hstep with
  | ambient o a st =>
    obtain ⟨⟨r, h₁, -⟩, rfl⟩ := yields_keeping_iff.mp hts
    obtain rfl := (yields_op_iff (S := Machine) (o := .inr o)).mp h₁
    exact hx.unmoved ⟨rfl, rfl, rfl⟩
  | version a st =>
    obtain ⟨⟨r, h₁, -⟩, rfl⟩ := yields_keeping_iff.mp hts
    exact hx.unmoved ⟨rfl, rfl, Binding.quiet_call (fun _ => rfl) _ _ h₁⟩
  | register handler st =>
    obtain ⟨b₁, ts₁, ts₂, rfl, h₁, h₂⟩ := yields_bind_iff.mp hts
    obtain ⟨rfl, -, rfl⟩ := yields_pair_iff.mp h₂
    obtain ⟨rfl, a, rest, rfl, hrest⟩ := Binding.of_yields_registerLog h₁
    exact hx.unmoved ⟨rfl, rfl, by simp [transfer?, hrest.transfers]⟩
  | list a st => exact hx.unmoved (Binding.unmoved_keep Binding.quiet_deviceList hts)
  | opened info h =>
    obtain ⟨hdevices, hstreams, hms⟩ := hx
    rcases Binding.of_yields_openDevice hts with ⟨h', d, hh, hgain, hsame, hts'⟩ | ⟨e, he, -⟩
    · obtain rfl := Except.ok.inj hh
      exact ⟨d, hdevices.trans_gains hgain, hsame ▸ hstreams, by simp [hms, hts']⟩
    · cases he
  | notOpened info e =>
    rcases Binding.of_yields_openDevice hts with ⟨h', d, hh, -⟩ | ⟨e, -, rfl, hts'⟩
    · cases hh
    · exact hx.unmoved ⟨rfl, rfl, hts'⟩
  | device h call a =>
    exact hx.unmoved (Binding.unmoved_keep (Binding.quiet_deviceCall h call) hts)
  | channel h ch call a =>
    exact hx.unmoved (Binding.unmoved_keep (Binding.quiet_channelCall h ch call) hts)
  | setUp h config n =>
    obtain ⟨d, hdevice, hstreams, hms⟩ := hx
    obtain ⟨hdevices, ⟨n', slot, hn, hgain, hts'⟩ | ⟨e, he, -⟩⟩ :=
      Binding.of_yields_setupStream hdevice.2.1 hts
    · obtain rfl := Except.ok.inj hn
      exact ⟨d, slot, hdevices ▸ hdevice, hstreams.trans_gains hgain, by simp [hms, hts']⟩
    · cases he
  | notSetUp h config e =>
    obtain ⟨d, hdevice, -⟩ := id hx
    obtain ⟨hdevices, ⟨n', slot, hn, -⟩ | ⟨e, -, hstreams, hts'⟩⟩ :=
      Binding.of_yields_setupStream hdevice.2.1 hts
    · cases hn
    · exact hx.unmoved ⟨hdevices, hstreams, hts'⟩
  | started h n =>
    obtain ⟨hc', hts'⟩ := Binding.of_yields_running hts
    exact setRunning hx hc' hts'
  | notStarted h n e =>
    obtain ⟨hc', hts'⟩ := Binding.of_yields_running hts
    exact setRunning hx hc' hts'
  | recv h n buffer info timeout a =>
    obtain ⟨⟨r, h₁, -⟩, rfl⟩ := yields_keeping_iff.mp hts
    exact hx.unmoved ⟨rfl, rfl, Binding.quiet_recvStream n buffer info timeout _ _ h₁⟩
  | status h n a => exact hx.unmoved (Binding.unmoved_keep (Binding.quiet_streamStatus n) hts)
  | stopped h n =>
    obtain ⟨hc', hts'⟩ := Binding.of_yields_running hts
    exact setRunning hx hc' hts'
  | notStopped h n e =>
    obtain ⟨hc', hts'⟩ := Binding.of_yields_running hts
    exact setRunning hx hc' hts'
  | stoppedLater h n =>
    obtain ⟨hc', hts'⟩ := Binding.of_yields_running hts
    exact setRunning hx hc' hts'
  | stillStuck h n e =>
    obtain ⟨hc', hts'⟩ := Binding.of_yields_running hts
    exact setRunning hx hc' hts'
  | destroyed h n a hst =>
    rcases hst with rfl | rfl | rfl
    · exact destroyed hx hts
    · exact destroyed hx hts
    · exact destroyed hx hts
  | closed h a hst =>
    rcases hst with rfl | rfl
    · obtain ⟨d, hdevice, hstreams, hms⟩ := hx
      obtain ⟨rfl, hts'⟩ := Binding.of_yields_closeDevice hdevice.2.1 hts
      exact ⟨hdevice.erase, hstreams, .inr ⟨d, .inl (by simp [hms, hts'])⟩⟩
    · obtain ⟨d, k, hdevice, hstreams, hms⟩ := hx
      obtain ⟨rfl, hts'⟩ := Binding.of_yields_closeDevice hdevice.2.1 hts
      exact ⟨hdevice.erase, hstreams, .inr ⟨d, .inr ⟨k, by simp [hms, hts']⟩⟩⟩

end Custody

/-! ## The whole test -/

/-- The first line can be written, and then the last registration removes the handler; or
it cannot, and that is the end. -/
def RemovesHandler (b' : Binding) (ms : List (Event Machine)) : Prop :=
  ∃ a : Reply (Option (List UInt8)), ∃ notes, ∃ w : Except String Unit, ∃ rest,
    ms = ⟨.inl .getLibraryVersion, a⟩ :: (notes ++
      ⟨.inr (.write ("Lime API Version: " ++ Text.CString.read? a.out ++ "\n")), w⟩ :: rest) ∧
    Passed notes ∧
    ((∃ message, w = .error message ∧ rest = []) ∨
      (w = .ok () ∧ (registrations rest).getLast? = some false ∧ b'.handler = none))

/-- Nothing is left of a test, in the driver's tables or with the library. -/
structure LeavesNothing (b b' : Binding) (ms : List (Event Machine)) : Prop where
  devices : b.devices.Same b'.devices
  streams : b.streams.Same b'.streams
  givenBack : GivenBack (transfers ms)
  handler : RemovesHandler b' ms

variable {b b' : Binding} {ms : List (Event Machine)} {budget : Nat} {s : SmokeTest.Settings}
  {r : Except Error SmokeTest.Outcome}

theorem custody_run (h : (b.host (SmokeTest.run budget s).run).Yields ms (r, b')) :
    b.devices.Same b'.devices ∧ b.streams.Same b'.streams ∧ GivenBack (transfers ms) := by
  obtain ⟨es, hes, hmeans⟩ := yields_interpretWith (S := Host) h []
  obtain ⟨st, hpath, hst⟩ := SmokeTest.path_run hes
  have hstart : Custody b .waiting (b, []) := ⟨.refl _, .refl _, rfl⟩
  have hstep : ∀ ev st st' x x', SmokeTest.Stage.Step ev st st' →
      Means Binding.operation ev x x' → Custody b st x → Custody b st' x' :=
    fun _ _ _ _ _ hstep hmeans hx => Custody.step hstep hmeans hx
  have hend := hpath.related hstep hmeans hstart
  rcases hst with rfl | rfl
  · obtain ⟨hdevices, hstreams, hms⟩ := hend
    exact ⟨hdevices, hstreams, .inl hms⟩
  · exact hend

theorem means_libraryVersion {version : String} {x : Binding × List (Event Machine)}
    (h : Means Binding.operation ⟨.inl .libraryVersion, version⟩ (b, []) x) :
    ∃ a : Reply (Option (List UInt8)), ∃ notes, x = (b, ⟨.inl .getLibraryVersion, a⟩ :: notes) ∧
      Passed notes ∧ version = Text.CString.read? a.out := by
  obtain ⟨c, ms⟩ := x
  obtain ⟨ts, hts, hms⟩ := h
  obtain ⟨⟨a, h₁, rfl⟩, rfl⟩ := yields_keeping_iff.mp hts
  obtain ⟨rest, rfl, hrest⟩ := Binding.of_yields_call h₁
  exact ⟨a, rest, Prod.ext rfl hms, hrest, rfl⟩

theorem means_ambient {o : Ambient} {a : o.Reply} {x y : Binding × List (Event Machine)}
    (h : Means Binding.operation ⟨.inr o, a⟩ x y) : y = (x.1, x.2 ++ [⟨.inr o, a⟩]) := by
  obtain ⟨c, ms⟩ := y
  obtain ⟨ts, hts, hms⟩ := h
  obtain ⟨⟨r, h₁, rfl⟩, rfl⟩ := yields_keeping_iff.mp hts
  obtain rfl := (yields_op_iff (S := Machine) (o := .inr o)).mp h₁
  exact Prod.ext rfl hms

theorem means_registerLog {handler : Option LogHandler} {u : Unit}
    {x y : Binding × List (Event Machine)}
    (h : Means Binding.operation ⟨.inl (.registerLog handler), u⟩ x y) :
    y.1 = { x.1 with handler := handler } ∧ ∃ a : Reply Unit, ∃ rest,
      y.2 = x.2 ++ ⟨.inl (.registerLogHandler handler.isSome), a⟩ :: rest ∧ Passed rest := by
  obtain ⟨c, ms⟩ := y
  obtain ⟨ts, hts, hms⟩ := h
  obtain ⟨c', ts₁, ts₂, rfl, h₁, h₂⟩ := yields_bind_iff.mp hts
  obtain ⟨rfl, -, rfl⟩ := yields_pair_iff.mp h₂
  obtain ⟨rfl, a, rest, rfl, hrest⟩ := Binding.of_yields_registerLog h₁
  exact ⟨rfl, a, rest, by simpa using hms, hrest⟩

theorem removesHandler_run (h : (b.host (SmokeTest.run budget s).run).Yields ms (r, b')) :
    RemovesHandler b' ms := by
  obtain ⟨es, hes, hmeans⟩ := yields_interpretWith (S := Host) h []
  obtain ⟨version, w, rest, rfl, hw⟩ := SmokeTest.of_yields_run hes
  obtain ⟨⟨c, ms₁⟩, hversion, hmeans⟩ := Path.cons_iff.mp hmeans
  obtain ⟨⟨c', ms₂⟩, hwrite, hmeans⟩ := Path.cons_iff.mp hmeans
  obtain ⟨a, notes, heq, hnotes, rfl⟩ := means_libraryVersion hversion
  obtain ⟨rfl, rfl⟩ := Prod.mk.inj heq
  obtain ⟨rfl, rfl⟩ := Prod.mk.inj (means_ambient hwrite)
  rcases hw with ⟨message, rfl, rfl, -⟩ | ⟨rfl, tail, rfl, -⟩
  · obtain ⟨rfl, rfl⟩ := Prod.mk.inj (Path.nil_iff.mp hmeans)
    exact ⟨a, notes, _, [], rfl, hnotes, .inl ⟨message, rfl, rfl⟩⟩
  · rw [← List.cons_append, ← List.cons_append] at hmeans
    obtain ⟨⟨c'', ms₃⟩, hmiddle, hlast⟩ := Path.append_iff.mp hmeans
    obtain ⟨ts, hts⟩ := exists_append_of_means hmiddle
    obtain ⟨⟨c₃, ms₄⟩, hleave, hend⟩ := Path.cons_iff.mp hlast
    obtain ⟨rfl, rfl⟩ := Prod.mk.inj (Path.nil_iff.mp hend)
    obtain ⟨rfl, a', rest, hms, hrest⟩ := means_registerLog hleave
    obtain rfl : ms₃ = _ := hts
    refine ⟨a, notes, _, ts ++ ⟨.inl (.registerLogHandler false), a'⟩ :: rest, ?_, hnotes,
      .inr ⟨rfl, ?_, rfl⟩⟩
    · simpa using hms
    · simp [registration?, hrest.registrations]

/-- Nothing is left of a test, whatever the library replies, the clock reads and the
writing comes to, and whatever the driver held before. -/
theorem run_leavesNothing (h : (b.host (SmokeTest.run budget s).run).Yields ms (r, b')) :
    LeavesNothing b b' ms where
  devices := (custody_run h).1
  streams := (custody_run h).2.1
  givenBack := (custody_run h).2.2
  handler := removesHandler_run h

/-! ## A test whose device is lost

A run is put together from its parts, because the events of the whole are too many to be
read off at once. -/

namespace Binding

variable {α β : Type} {b c d : Binding} {ms ts : List (Event Machine)}

theorem yields_host_bind {p : Prog Host α} {f : α → Prog Host β} {a : α} {x : β}
    (hp : (b.host p).Yields ms (a, c)) (hf : (c.host (f a)).Yields ts (x, d)) :
    (b.host (p >>= f)).Yields (ms ++ ts) (x, d) := by
  rw [host, interpretWith_bind]
  exact yields_bind_iff.mpr ⟨_, _, _, rfl, hp, hf⟩

theorem yields_host_step {p : Attempt α} {f : α → Attempt β} {a : α} {r : Except Error β}
    (hp : (b.host p.run).Yields ms (.ok a, c)) (hf : (c.host (f a).run).Yields ts (r, d)) :
    (b.host (p >>= f).run).Yields (ms ++ ts) (r, d) := yields_host_bind hp hf

theorem yields_host_map {p : Prog Host α} {f : α → Prog Host β} {a : α} {x : β}
    (hp : (b.host p).Yields ms (a, c)) (hf : f a = .done x) :
    (b.host (p >>= f)).Yields ms (x, c) := by
  have hx : (c.host (f a)).Yields [] (x, c) := hf ▸ .done _
  have h := yields_host_bind hp hx
  rwa [List.append_nil] at h

theorem yields_host_error {p : Attempt α} {f : α → Attempt β} {e : Error}
    (hp : (b.host p.run).Yields ms (.error e, c)) :
    (b.host (p >>= f).run).Yields ms (.error e, c) := yields_host_map hp rfl

theorem yields_host_always {p : Prog Host α} {f : α → Attempt β} {a : α} {r : Except Error β}
    (hp : (b.host p).Yields ms (a, c)) (hf : (c.host (f a).run).Yields ts (r, d)) :
    (b.host (Attempt.always p >>= f).run).Yields (ms ++ ts) (r, d) :=
  yields_host_step (yields_host_map hp rfl) hf

end Binding

/-- The path of the snapshot has a zero byte, so that it is not even passed to the library. -/
def unsavable : SmokeTest.Settings :=
  { SmokeTest.Settings.standard ⟨[0]⟩ with bufferSize := 2 }

/-- A driver with one device. -/
def oneOpen : Binding :=
  { Binding.fresh with devices := ⟨#[some ⟨7⟩]⟩, handler := some .forward }

/-- The same driver after a stream was given back. -/
def afterStream : Binding := { oneOpen with streams := ⟨#[none]⟩, blocks := 1 }

def noted (e : Entry) : Event Machine := ⟨.inr (.note e), ()⟩

def printed (text : String) : Event Machine := ⟨.inr (.write (text ++ "\n")), .ok ()⟩

/-- The library has no message about its last error. -/
def unexplained : Event Machine := Call.getLastErrorMessage.event ⟨0, none, []⟩

/-- The library does what it is asked, and stores nothing. -/
def configureEvents (warned : Bool) : List (Event Machine) :=
  let on (f : ChannelFunction) (out : f.Out) : Event Machine :=
    (Call.channel ⟨7⟩ false 0 f).event ⟨0, out, []⟩
  let zero := SmokeTest.mega 0
  [noted (.debug "enabling RX0"), on (.enable true) (),
    noted (.debug ("setting LO to " ++ Decimal.plain 800e6 ++ " Hz")),
    on (.setLoFrequency 800e6) (), on .getLoFrequency none,
    printed ("\nCenter frequency: " ++ zero ++ " MHz"),
    on (.getAntennaList none) [], printed "Available antennae:",
    on .getAntenna (), printed "Automatically selected antenna: 0: ?",
    on (.setAntenna 3) (), on .getAntenna (), printed "Manually selected antenna: 0: ?",
    noted (.debug ("setting sample rate to " ++ Decimal.plain 21e6 ++ " Hz, oversample 2")),
    (Call.device ⟨7⟩ (.setSampleRate 21e6 2)).event ⟨0, (), []⟩, on .getSampleRate (none, none),
    printed ("Host interface sample rate: " ++ zero ++ " MHz\nRF ADC sample rate: " ++ zero ++
      " MHz\n"),
    (Call.device ⟨7⟩ (.getLpfBwRange false)).event ⟨0, (none, none, none), []⟩,
    printed ("RX LPF bandwidth range: " ++ zero ++ " - " ++ zero ++ " MHz\n")] ++
  (if warned then
    [noted (.warn ("LPF bandwidth " ++ Decimal.plain 8e6 ++ " Hz is outside the device range"))]
   else []) ++
  [on (.setLpfBw 8e6) (), on (.setNormalizedGain 0.7) (), on .getNormalizedGain none,
    printed ("Normalized RX Gain: " ++ Decimal.plain 0), on .getGainDb none,
    printed "RX Gain: 0 dB", noted (.debug ("calibrating for " ++ Decimal.plain 8e6 ++ " Hz")),
    on (.calibrate 8e6 0) (), on (.setTestSignal 1 0 0) ()]

theorem yields_configure : ∃ warned applied,
    (oneOpen.host (SmokeTest.configure ⟨⟨0⟩, "usb"⟩ unsavable).run).Yields (configureEvents warned)
      (.ok applied, oneOpen) := by
  refine ⟨!Range.contains ⟨Option.getD none 0, Option.getD none 0, Option.getD none 0⟩
    unsavable.lpfBandwidth, ⟨0, [], 0, 0, ⟨0, 0⟩, ⟨0, 0, 0⟩, 0, 0⟩, ?_⟩
  refine .ask _ (.ask _ (.ask _ (.ask _ (.ask _ (.ask _ (.ask _ (.ask _ (.ask _ (.ask _ (.ask _
    (.ask _ (.ask _ (.ask _ (.ask _ (.ask _ (.ask _ (.ask _ (.ask _ ?_))))))))))))))))))
  -- a comparison of floating numbers does not compute in the logic, so both ways are shown
  generalize (!Range.contains ⟨Option.getD none 0, Option.getD none 0, Option.getD none 0⟩
    unsavable.lpfBandwidth) = warned
  cases warned with
  | true =>
    exact .ask _ (.ask _ (.ask _ (.ask _ (.ask _ (.ask _ (.ask _ (.ask _ (.ask _ (.ask _
      (.done _))))))))))
  | false =>
    exact .ask _ (.ask _ (.ask _ (.ask _ (.ask _ (.ask _ (.ask _ (.ask _ (.ask _
      (.done _)))))))))

/-- A stream is set up and started.  Its first read fails, and so does giving it back. -/
def streamingEvents : List (Event Machine) :=
  let block : StreamBlock := ⟨0, 0⟩
  [(Call.setupStream ⟨7⟩ block (Binding.setupOf unsavable.streamConfig)).event ⟨0, some 0, []⟩,
    noted (.debug "stream StreamHandle(0) set up on RX0"),
    (Call.stream block .start).event ⟨0, (), []⟩, ⟨.inr .now, .zero⟩, ⟨.inr .now, .zero⟩,
    (Call.stream block (.recv 2 none 1000)).event ⟨-1, ⟨#[], none⟩, []⟩, unexplained,
    (Call.stream block .stop).event ⟨-1, (), []⟩, unexplained,
    noted (.warn "error stopping stream StreamHandle(0): stop_stream failed: "),
    (Call.destroyStream ⟨7⟩ block).event ⟨-1, (), []⟩, unexplained,
    noted (.warn "error destroying stream: destroy_stream failed: ")]

theorem yields_streaming (applied : SmokeTest.Applied) :
    (oneOpen.host (Stream.setup ⟨⟨0⟩, "usb"⟩ unsavable.streamConfig >>=
        SmokeTest.streaming 1 unsavable applied).run).Yields streamingEvents
      (.error (.failed "recv_stream" ""), afterStream) :=
  .ask _ (.ask _ (.ask _ (.ask _ (.ask _ (.ask _ (.ask _ (.ask _ (.ask _ (.ask _ (.ask _ (.ask _
    (.ask _ (.done _)))))))))))))

def sessionEvents (warned : Bool) : List (Event Machine) :=
  (Call.device ⟨7⟩ .init).event ⟨0, (), []⟩ ::
    noted (.warn ("could not save config to " ++ PathName.text ⟨[0]⟩ ++ ": Invalid String")) ::
    (configureEvents warned ++ streamingEvents)

theorem yields_session : ∃ warned,
    (oneOpen.host (SmokeTest.session 1 ⟨⟨0⟩, "usb"⟩ unsavable).run).Yields (sessionEvents warned)
      (.error (.failed "recv_stream" ""), afterStream) := by
  obtain ⟨warned, applied, hconfigure⟩ := yields_configure
  rw [SmokeTest.session_eq]
  exact ⟨warned, .ask _ (.ask _ (Binding.yields_host_step hconfigure (yields_streaming applied)))⟩

/-- The device cannot be closed either. -/
def closingEvents : List (Event Machine) :=
  [noted (.debug "closing usb"), (Call.closeDevice ⟨7⟩).event ⟨-1, (), []⟩, unexplained,
    noted (.warn "error closing device: close failed: ")]

theorem yields_withDevice : ∃ warned,
    (oneOpen.host (SmokeTest.withDevice 1 ⟨⟨0⟩, "usb"⟩ unsavable).run).Yields
      (sessionEvents warned ++ closingEvents)
      (.error (.failed "recv_stream" ""), { afterStream with devices := ⟨#[none]⟩ }) := by
  obtain ⟨warned, hsession⟩ := yields_session
  rw [SmokeTest.withDevice_eq]
  exact ⟨warned, Binding.yields_host_always hsession (.ask _ (.ask _ (.ask _ (.ask _ (.done _)))))⟩

/-- A device is lost while it streams. -/
def brokenEvents (warned : Bool) : List (Event Machine) :=
  Call.getLibraryVersion.event ⟨0, none, []⟩ :: printed "Lime API Version: " ::
    (Call.registerLogHandler false).event ⟨0, (), []⟩ ::
    (Call.registerLogHandler true).event ⟨0, (), []⟩ ::
    (Call.getDeviceList none).event ⟨1, [], []⟩ ::
    (Call.getDeviceList (some 17)).event ⟨1, [[117, 115, 98]], []⟩ ::
    printed "1 devices" :: printed "Device: usb" ::
    (Call.openDevice "usb").event ⟨0, some ⟨7⟩, []⟩ ::
    noted (.debug "opened usb as DeviceHandle(0)") ::
    (sessionEvents warned ++ closingEvents ++
      [(Call.registerLogHandler false).event ⟨0, (), []⟩])

theorem transfers_brokenEvents (warned : Bool) :
    transfers (brokenEvents warned) =
      [.opened ⟨7⟩, .setUp ⟨7⟩ 0, .destroyed ⟨7⟩ 0, .closed ⟨7⟩] := by
  cases warned <;> rfl

theorem yields_ite_bind {S : Signature} {α β : Type} {c : Prop} [Decidable c] {p q : Prog S α}
    {f : α → Prog S β} {es : List (Event S)} {a : β} (hc : ¬ c) (h : (q >>= f).Yields es a) :
    ((if c then p else q) >>= f).Yields es a := by
  rw [if_neg hc]
  exact h

theorem usb_noZeroByte : ¬ 0 ∈ Text.Utf8.encode "usb" := by decide +kernel

/-- Nothing is left although the library neither destroys the stream nor closes the device. -/
theorem broken_run_leavesNothing :
    ∃ warned b', (Binding.fresh.host (SmokeTest.run 1 unsavable).run).Yields (brokenEvents warned)
        (.error (.failed "recv_stream" ""), b') ∧
      transfers (brokenEvents warned) =
        [.opened ⟨7⟩, .setUp ⟨7⟩ 0, .destroyed ⟨7⟩ 0, .closed ⟨7⟩] ∧
      LeavesNothing .fresh b' (brokenEvents warned) := by
  obtain ⟨warned, hdevice⟩ := yields_withDevice
  have h : (Binding.fresh.host (SmokeTest.run 1 unsavable).run).Yields (brokenEvents warned)
      (.error (.failed "recv_stream" ""),
        { Binding.fresh with devices := ⟨#[none]⟩, streams := ⟨#[none]⟩, blocks := 1 }) :=
    .ask _ (.ask _ (.ask _ (.ask _ (.ask _ (.ask _ (.ask _ (.ask _ (yields_ite_bind usb_noZeroByte
      (.ask _ (.ask _ (Binding.yields_host_bind (Binding.yields_host_error hdevice)
        (.ask _ (.done _)))))))))))))
  exact ⟨warned, _, h, transfers_brokenEvents warned, run_leavesNothing h⟩

end Native
end RadioBench
