/-
Whose a device is.

The library hands a device out with a successful opening, under a name of its own, and takes
it back with a closing, whatever that returns.  In between the driver holds the device and
may name it in calls.  A name can be handed out again once its device was taken back, so
what is held is a matter of the last opening or closing under a name.

A client may ask the driver for anything in any order and with any handles, also with
handles that were never issued or whose device is gone.  The driver's table of devices then
always has exactly the devices that are held, each of them once, and this is all that
releasing the driver needs.
-/
import RadioBench.Proofs.Native.Custody

namespace RadioBench
namespace Native

open Prog

/-! ## Histories -/

/-- The device that a call names. -/
def Call.device? : Call → Option DeviceRef
  | .getLibraryVersion => none
  | .getLastErrorMessage => none
  | .registerLogHandler _ => none
  | .getDeviceList _ => none
  | .openDevice _ => none
  | .closeDevice d => some d
  | .device d _ => some d
  | .channel d _ _ _ => some d
  | .setupStream d _ _ => some d
  | .destroyStream d _ => some d
  | .stream _ _ => none

def device? (ev : Event Machine) : Option DeviceRef :=
  match ev.op with
  | .inl c => Call.device? c
  | .inr _ => none

/-- The transfer is an opening or a closing of the device. -/
def Transfer.concerns (d : DeviceRef) (t : Transfer) : Bool := t = .opened d || t = .closed d

/-- The openings and closings of a device. -/
def tenure (d : DeviceRef) (ms : List (Event Machine)) : List Transfer :=
  (transfers ms).filter (·.concerns d)

/-- The device was opened, and not closed since. -/
def Held (d : DeviceRef) (ms : List (Event Machine)) : Prop :=
  (tenure d ms).getLast? = some (.opened d)

/-- Each event stands in a relation to those before it. -/
def EachAfter (R : List (Event Machine) → Event Machine → Prop) (ms : List (Event Machine)) :
    Prop := ∀ before ev after, ms = before ++ ev :: after → R before ev

/-- A device that is opened is none of those that are held. -/
def FreshOpens : List (Event Machine) → Prop :=
  EachAfter fun before ev => ∀ d, transfer? ev = some (.opened d) → ¬ Held d before

/-- A call names no device but one that is held. -/
def NamesHeld : List (Event Machine) → Prop :=
  EachAfter fun before ev => ∀ d, device? ev = some d → Held d before

namespace EachAfter

variable {R : List (Event Machine) → Event Machine → Prop} {ms ts : List (Event Machine)}
  {ev : Event Machine}

theorem nil : EachAfter R [] := by
  intro before ev after h
  cases before <;> cases h

theorem left (h : EachAfter R (ms ++ ts)) : EachAfter R ms := by
  rintro before ev after rfl
  exact h before ev (after ++ ts) (by simp)

theorem last (h : EachAfter R (ms ++ [ev])) : R ms ev := h ms ev [] rfl

theorem concat (h : EachAfter R ms) (hev : R ms ev) : EachAfter R (ms ++ [ev]) := by
  intro before x after heq
  rcases List.eq_nil_or_concat after with rfl | ⟨rest, y, rfl⟩
  · obtain ⟨rfl, hx⟩ := List.append_inj' heq rfl
    obtain rfl := List.singleton_inj.mp hx
    exact hev
  · rw [List.concat_eq_append, ← List.cons_append, ← List.append_assoc] at heq
    obtain ⟨rfl, -⟩ := List.append_inj' heq rfl
    exact h before x rest rfl

end EachAfter

/-- Where nothing is opened, nothing fresh is needed. -/
theorem FreshOpens.append_of_ne {ms ts : List (Event Machine)} (h : FreshOpens ms)
    (hts : ∀ ev ∈ ts, ∀ d, transfer? ev ≠ some (.opened d)) : FreshOpens (ms ++ ts) := by
  induction ts generalizing ms with
  | nil => rwa [List.append_nil]
  | cons ev ts ih =>
    obtain ⟨hev, hts⟩ := List.forall_mem_cons.mp hts
    have hnext : FreshOpens (ms ++ [ev]) := h.concat fun d hd => absurd hd (hev d)
    rw [List.append_cons]
    exact ih hnext hts

/-! ## Tenures -/

variable {d e : DeviceRef} {ms ts : List (Event Machine)} {ev : Event Machine}

/-- The device is opened and closed in turns. -/
def InTurns (d : DeviceRef) (ts : List Transfer) : Prop :=
  ∃ n, ts = (List.replicate n [.opened d, .closed d]).flatten

/-- The device is opened and closed in turns, and opened once more. -/
def InTurnsOpen (d : DeviceRef) (ts : List Transfer) : Prop :=
  ∃ front, InTurns d front ∧ ts = front ++ [.opened d]

theorem tenure_append (d : DeviceRef) (ms ts : List (Event Machine)) :
    tenure d (ms ++ ts) = tenure d ms ++ tenure d ts := by
  rw [tenure, transfers_append, List.filter_append, tenure, tenure]

theorem InTurnsOpen.closed {ts : List Transfer} (h : InTurnsOpen d ts) :
    InTurns d (ts ++ [.closed d]) := by
  obtain ⟨front, ⟨n, rfl⟩, rfl⟩ := h
  refine ⟨n + 1, ?_⟩
  rw [List.replicate_succ', List.flatten_append]
  simp

theorem InTurns.getLast?_ne {ts : List Transfer} (h : InTurns d ts) :
    ts.getLast? ≠ some (.opened d) := by
  obtain ⟨n, rfl⟩ := h
  cases n with
  | zero => simp
  | succ n =>
    rw [List.replicate_succ', List.flatten_append]
    simp

/-! ## Possession -/

/-- The event opens and closes nothing, and names no device outside `D`. -/
def Minds (D : DeviceRef → Prop) (ev : Event Machine) : Prop :=
  (∀ d, device? ev = some d → D d) ∧ ∀ d, tenure d [ev] = []

namespace Minds

variable {D : DeviceRef → Prop}

theorem of_none (hev : device? ev = none) (hts : transfer? ev = none) : Minds D ev := by
  refine ⟨fun d hd => ?_, fun d => ?_⟩
  · rw [hev] at hd
    cases hd
  · simp [tenure, hts]

theorem aside (h : Aside ev) : Minds D ev := by
  cases h with
  | note e => exact .of_none rfl rfl
  | query a => exact .of_none rfl rfl

theorem failedOpen {info : String} {a : Reply (Option DeviceRef)} (hcode : a.code ≠ 0) :
    Minds D ⟨.inl (.openDevice info), a⟩ := .of_none rfl (if_neg hcode)

/-- A call on a device in `D` that neither opens nor closes one. -/
theorem of_device {d : DeviceRef} (hev : device? ev = some d) (hd : D d)
    (hts : ∀ t, transfer? ev = some t → ∀ e, t.concerns e = false) : Minds D ev := by
  refine ⟨fun e he => Option.some.inj (hev.symm.trans he) ▸ hd, fun e => ?_⟩
  rw [tenure, List.filter_eq_nil_iff]
  intro t ht
  have hmoved : transfer? ev = some t := by simpa using ht
  rw [hts t hmoved e]
  exact Bool.false_ne_true

theorem device {d : DeviceRef} (hd : D d) (f : DeviceFunction) (a : Reply f.Out) :
    Minds D ⟨.inl (.device d f), a⟩ := of_device rfl hd fun t ht => (by cases ht)

theorem channel {d : DeviceRef} (hd : D d) (isTx : Bool) (index : UInt32) (f : ChannelFunction)
    (a : Reply f.Out) : Minds D ⟨.inl (.channel d isTx index f), a⟩ :=
  of_device rfl hd fun t ht => (by cases ht)

theorem setupStream {d : DeviceRef} (hd : D d) (block : StreamBlock) (setup : StreamSetup)
    (a : Reply (Option Nat)) : Minds D ⟨.inl (.setupStream d block setup), a⟩ := by
  refine of_device rfl hd fun t ht => ?_
  obtain ⟨-, hsetUp⟩ := Option.ite_none_right_eq_some.mp ht
  obtain rfl := Option.some.inj hsetUp
  exact fun e => rfl

theorem destroyStream {d : DeviceRef} (hd : D d) (block : StreamBlock) (a : Reply Unit) :
    Minds D ⟨.inl (.destroyStream d block), a⟩ := by
  refine of_device rfl hd fun t ht => ?_
  obtain rfl := Option.some.inj ht
  exact fun e => rfl

end Minds

/-- The history of a driver that holds the devices `D`. -/
structure Possession (D : DeviceRef → Prop) (ms : List (Event Machine)) : Prop where
  names : NamesHeld ms
  held : ∀ d, D d → InTurnsOpen d (tenure d ms)
  free : ∀ d, ¬ D d → InTurns d (tenure d ms)

namespace Possession

variable {D : DeviceRef → Prop}

theorem held_iff (h : Possession D ms) : Held d ms ↔ D d := by
  constructor
  · intro hheld
    by_contra hD
    exact (h.free d hD).getLast?_ne hheld
  · intro hD
    obtain ⟨front, -, hts⟩ := h.held d hD
    rw [Held, hts]
    simp

theorem nil : Possession (fun _ => False) [] where
  names := .nil
  held _ h := h.elim
  free _ _ := ⟨0, rfl⟩

theorem congr {D' : DeviceRef → Prop} (h : Possession D ms) (hD : ∀ d, D' d ↔ D d) :
    Possession D' ms where
  names := h.names
  held d hd := h.held d ((hD d).mp hd)
  free d hd := h.free d (mt (hD d).mpr hd)

/-! A call may be made that names a device in `D`.  What is held then changes with openings
and closings only. -/

theorem names_concat (h : Possession D ms) (hev : ∀ d, device? ev = some d → D d) :
    NamesHeld (ms ++ [ev]) :=
  h.names.concat fun d hd => h.held_iff.mpr (hev d hd)

theorem minds (h : Possession D ms) (hts : ∀ ev ∈ ts, Minds D ev) :
    Possession D (ms ++ ts) := by
  induction ts generalizing ms with
  | nil => rwa [List.append_nil]
  | cons ev ts ih =>
    obtain ⟨⟨hnames, htenure⟩, hts⟩ := List.forall_mem_cons.mp hts
    have hsame : ∀ d, tenure d (ms ++ [ev]) = tenure d ms := by
      intro d
      rw [tenure_append, htenure d, List.append_nil]
    have hnext : Possession D (ms ++ [ev]) :=
      { names := h.names_concat hnames
        held := fun d hd => (hsame d).symm ▸ h.held d hd
        free := fun d hd => (hsame d).symm ▸ h.free d hd }
    rw [List.append_cons]
    exact ih hnext hts

theorem opened {a : Reply (Option DeviceRef)} (h : Possession D ms) (info : String)
    (hcode : a.code = 0) (hfree : ¬ D (Option.getD a.out .null)) :
    Possession (fun x => D x ∨ x = Option.getD a.out .null)
      (ms ++ [⟨.inl (.openDevice info), a⟩]) := by
  have hsame : ∀ x, x ≠ Option.getD a.out .null →
      tenure x (ms ++ [⟨.inl (.openDevice info), a⟩]) = tenure x ms := by
    intro x hx
    simp [tenure, transfer?, hcode, Transfer.concerns, Ne.symm hx]
  refine ⟨h.names_concat fun d hd => ?_, fun x hx => ?_, fun x hx => ?_⟩
  · cases hd
  · by_cases hxd : x = Option.getD a.out .null
    · subst hxd
      refine ⟨_, h.free _ hfree, ?_⟩
      simp [tenure, transfer?, hcode, Transfer.concerns]
    · rw [hsame x hxd]
      exact h.held x (hx.resolve_right hxd)
  · rw [hsame x (mt .inr hx)]
    exact h.free x (mt .inl hx)

theorem closed {a : Reply Unit} (h : Possession D ms) (hd : D d) :
    Possession (fun x => D x ∧ x ≠ d) (ms ++ [⟨.inl (.closeDevice d), a⟩]) := by
  have hsame : ∀ x, x ≠ d → tenure x (ms ++ [⟨.inl (.closeDevice d), a⟩]) = tenure x ms := by
    intro x hx
    simp [tenure, transfer?, Transfer.concerns, Ne.symm hx]
  refine ⟨h.names_concat fun x hx => ?_, fun x hx => ?_, fun x hx => ?_⟩
  · cases hx
    exact hd
  · rw [hsame x hx.2]
    exact h.held x hx.1
  · by_cases hxd : x = d
    · subst hxd
      have hclose := InTurnsOpen.closed (h.held x hd)
      simpa [tenure, transfer?, Transfer.concerns] using hclose
    · rw [hsame x hxd]
      exact h.free x fun hD => hx ⟨hD, hxd⟩

end Possession

/-! ## Requests -/

namespace Binding

variable {b b' : Binding}

/-- The driver's table of devices has those that it holds, each of them once. -/
structure Owns (b : Binding) (ms : List (Event Machine)) : Prop where
  possession : Possession b.devices.Holds ms
  distinct : b.devices.Distinct

namespace Owns

theorem minds (h : b.Owns ms) (hdevices : b'.devices = b.devices)
    (hts : ∀ ev ∈ ts, Minds b.devices.Holds ev) : b'.Owns (ms ++ ts) := by
  constructor
  · rw [hdevices]
    exact h.possession.minds hts
  · rw [hdevices]
    exact h.distinct

theorem openDevice {info : String} {r : Except Error DeviceHandle} (h : b.Owns ms)
    (hts : (b.openDevice info).Yields ts (r, b')) (hfresh : FreshOpens (ms ++ ts)) :
    b'.Owns (ms ++ ts) := by
  rcases openDevice_cases hts with
    ⟨-, rfl, rfl⟩ | ⟨a, rest, rfl, hrest, ⟨hcode, -, rfl⟩ | ⟨hcode, -, rfl⟩⟩
  · exact h.minds rfl (by simp)
  · rw [List.append_cons] at hfresh ⊢
    -- what the table has is held, so the library cannot have handed out the same again
    have hnew : ¬ b.devices.Holds (Option.getD a.out .null) := by
      rw [← h.possession.held_iff]
      exact hfresh.left.last _ (by simp [transfer?, hcode])
    have hgain := b.devices.insert_gains (Option.getD a.out .null)
    have hopened := h.possession.opened info hcode hnew
    exact ⟨(hopened.congr fun x => hgain.holds_iff).minds fun ev hev => .aside (hrest ev hev),
      hgain.distinct h.distinct hnew⟩
  · refine h.minds rfl (List.forall_mem_cons.mpr ⟨.failedOpen hcode, fun ev hev => ?_⟩)
    exact .aside (hrest ev hev)

theorem closeDevice {handle : DeviceHandle} {r : Except Error Unit} (h : b.Owns ms)
    (hts : (b.closeDevice handle).Yields ts (r, b')) : b'.Owns (ms ++ ts) := by
  rcases closeDevice_cases hts with ⟨-, rfl, rfl, -⟩ | ⟨d, a, rest, hd, -, rfl, hrest, rfl⟩
  · exact h.minds rfl (by simp)
  · -- no other slot has this device, so it leaves the table with the slot
    have hclosed := h.possession.closed (a := a) ⟨handle.index, hd⟩
    rw [List.append_cons]
    exact ⟨(hclosed.congr fun x => Slots.holds_erase_iff h.distinct hd).minds
      fun ev hev => .aside (hrest ev hev), h.distinct.erase hd⟩

theorem setupStream {handle : DeviceHandle} {config : StreamConfig}
    {r : Except Error StreamHandle} (h : b.Owns ms)
    (hts : (b.setupStream handle config).Yields ts (r, b')) : b'.Owns (ms ++ ts) := by
  rcases setupStream_cases hts with ⟨-, rfl, rfl, -⟩ | ⟨d, a, rest, hd, rfl, hrest, hend⟩
  · exact h.minds rfl (by simp)
  · have hdevices : b'.devices = b.devices := by
      rcases hend with ⟨-, slot, -, -, rfl⟩ | ⟨-, -, rfl⟩
      · rfl
      · rfl
    refine h.minds hdevices (List.forall_mem_cons.mpr ⟨?_, fun ev hev => .aside (hrest ev hev)⟩)
    exact .setupStream ⟨handle.index, hd⟩ _ _ a

theorem destroyStream {handle : DeviceHandle} {n : StreamHandle} {r : Except Error Unit}
    (h : b.Owns ms) (hts : (b.destroyStream handle n).Yields ts (r, b')) :
    b'.Owns (ms ++ ts) := by
  rcases destroyStream_cases hts with
    ⟨-, rfl, rfl, -⟩ | ⟨d, slot, a, rest, hd, -, -, rfl, hrest, rfl⟩
  · exact h.minds rfl (by simp)
  · refine h.minds rfl (List.forall_mem_cons.mpr ⟨?_, fun ev hev => .aside (hrest ev hev)⟩)
    exact .destroyStream ⟨handle.index, hd⟩ slot.block a

theorem around_minds (D : DeviceRef → Prop) (handler : Option LogHandler) :
    Around handler fun ms => ∀ ev ∈ ms, Minds D ev := around_forall (fun _ => .aside) handler

/-- A call on a stream names no device. -/
theorem minds_stream {D : DeviceRef → Prop} (block : StreamBlock) (f : StreamFunction) :
    Only (Minds D) (b.call (.stream block f)) := only_call (fun _ => .aside) fun _ => .of_none rfl rfl

theorem running {n : StreamHandle} {running : Bool} {r : Except Error Unit}
    {operation : String} {f : StreamFunction} {g : f.Out → Unit} (h : b.Owns ms)
    (hts : (b.commit (do b.succeed operation (.stream (← b.stream n).block f)) fun a =>
      (g a, b.setRunning n running)).Yields ts (r, b')) : b'.Owns (ms ++ ts) := by
  have honly := makes_onStream (around_minds b.devices.Holds b.handler) minds_stream n operation f
  rcases of_yields_commit hts with ⟨a, ha, -, rfl⟩ | ⟨e, he, -, rfl⟩
  · exact h.minds rfl (honly.events _ _ ha)
  · exact h.minds rfl (honly.events _ _ he)

theorem keep {α : Type} {p : Action α} {r : Except Error α} (h : b.Owns ms)
    (hp : Only (Minds b.devices.Holds) p.run) (hts : (b.keep p).Yields ts (r, b')) :
    b'.Owns (ms ++ ts) := by
  obtain ⟨hp', rfl⟩ := of_yields_keep hts
  exact h.minds rfl (hp.events _ _ hp')

/-- Whatever is asked of the driver, with whatever handles. -/
theorem perform {request : Request} {a : request.Answer} (h : b.Owns ms)
    (hts : (b.perform request).Yields ts (a, b')) (hfresh : FreshOpens (ms ++ ts)) :
    b'.Owns (ms ++ ts) := by
  have haround := around_minds b.devices.Holds b.handler
  cases request with
  | libraryVersion =>
    obtain ⟨⟨reply, h₁, -⟩, rfl⟩ := yields_keeping_iff.mp hts
    exact h.minds rfl ((only_call (fun _ => .aside) fun _ => .of_none rfl rfl).events _ _ h₁)
  | registerLog handler =>
    obtain ⟨c, ts₁, ts₂, rfl, h₁, h₂⟩ := yields_bind_iff.mp hts
    obtain ⟨rfl, -, rfl⟩ := yields_pair_iff.mp h₂
    obtain ⟨rfl, reply, rest, rfl, hrest⟩ := of_yields_registerLog h₁
    rw [List.append_nil]
    exact h.minds rfl (List.forall_mem_cons.mpr
      ⟨.of_none rfl rfl, fun ev hev => .aside (hrest.aside ev hev)⟩)
  | deviceList =>
    refine h.keep (makes_deviceList haround fun _ => ?_) hts
    exact only_call (fun _ => .aside) fun _ => .of_none rfl rfl
  | openDevice info => exact h.openDevice hts hfresh
  | closeDevice handle => exact h.closeDevice hts
  | device handle call =>
    refine h.keep (makes_deviceCall haround (fun d hd f => ?_) call) hts
    exact only_call (fun _ => .aside) (.device ⟨_, hd⟩ f)
  | channel handle ch call =>
    refine h.keep (makes_channelCall haround (fun d hd f => ?_) call) hts
    exact only_call (fun _ => .aside) (.channel ⟨_, hd⟩ ch.direction.isTx ch.index f)
  | setupStream handle config => exact h.setupStream hts
  | destroyStream handle n => exact h.destroyStream hts
  | startStream n => exact h.running hts
  | stopStream n => exact h.running hts
  | recvStream n buffer info timeout =>
    obtain ⟨⟨reply, h₁, -⟩, rfl⟩ := yields_keeping_iff.mp hts
    have honly := makes_recvStream haround minds_stream n buffer info timeout
    exact h.minds rfl (honly.events _ _ h₁)
  | sendStream n buffer count info timeout =>
    exact h.keep (makes_sendStream haround minds_stream n buffer count info timeout) hts
  | streamStatus n => exact h.keep (makes_streamStatus haround minds_stream n) hts

theorem step {ev : Event Host} {x x' : Binding × List (Event Machine)}
    (hmeans : Means operation ev x x') (h : x.1.Owns x.2) (hfresh : FreshOpens x'.2) :
    x'.1.Owns x'.2 := by
  obtain ⟨b, ms⟩ := x
  obtain ⟨b', ms'⟩ := x'
  obtain ⟨o, a⟩ := ev
  obtain ⟨ts, hts, hms⟩ := hmeans
  obtain rfl : ms' = ms ++ ts := hms
  cases o with
  | inl request => exact h.perform hts hfresh
  | inr ambient =>
    obtain ⟨⟨r, h₁, -⟩, rfl⟩ := yields_keeping_iff.mp hts
    obtain rfl := (yields_op_iff (S := Machine) (o := .inr ambient)).mp h₁
    exact h.minds rfl (List.forall_mem_cons.mpr ⟨.of_none rfl rfl, by simp⟩)

end Owns

/-- The requests of a program keep a driver in possession. -/
theorem owns_host {α : Type} {p : Prog Host α} {a : α} (h : (b.host p).Yields ms (a, b'))
    (hb : b.Owns []) (hfresh : FreshOpens ms) : b'.Owns ms := by
  obtain ⟨es, -, hpath⟩ := yields_interpretWith (S := Host) h []
  refine hpath.invariant (P := fun x => FreshOpens x.2 → x.1.Owns x.2) ?_ (fun _ => hb) hfresh
  rintro ev x x' hmeans hx hfresh'
  obtain ⟨ts, -, hms⟩ := id hmeans
  rw [hms] at hfresh'
  exact Owns.step hmeans (hx hfresh'.left) (hms ▸ hfresh')

/-! ## Giving everything back -/

/-- A closing is one call, and what it comes to makes no difference. -/
theorem of_yields_warnOf_close {d : DeviceRef} {u : Unit}
    (h : (warnOf "" (b.succeed "close" (.closeDevice d))).Yields ts u) :
    ∃ a rest, ts = ⟨.inl (.closeDevice d), a⟩ :: rest ∧ ∀ ev ∈ rest, Aside ev := by
  obtain ⟨r, ts₁, ts₂, rfl, h₁, h₂⟩ := of_yields_warnOf h
  obtain ⟨a, rest, rfl, hrest, -⟩ := of_yields_succeed h₁
  exact ⟨a, rest ++ ts₂, rfl, List.forall_mem_append.mpr ⟨hrest, h₂.aside⟩⟩

theorem mem_iff_mem_cons_and_ne {α : Type} {a x : α} {l : List α} (ha : a ∉ l) :
    x ∈ l ↔ x ∈ a :: l ∧ x ≠ a := by
  rw [List.mem_cons]
  constructor
  · intro hx
    exact ⟨.inr hx, ne_of_mem_of_not_mem hx ha⟩
  · rintro ⟨hx, hne⟩
    exact hx.resolve_left hne

/-- What is left is closed one by one. -/
theorem possession_closeAll {l : List (Nat × DeviceRef)} {u : Unit}
    (h : Possession (· ∈ l.map Prod.snd) ms) (hl : (l.map Prod.snd).Nodup)
    (hts : (l.forM fun entry => warnOf "" (b.succeed "close" (.closeDevice entry.2))).Yields
      ts u) : Possession (fun _ => False) (ms ++ ts) := by
  induction l generalizing ms ts with
  | nil =>
    obtain ⟨rfl, -⟩ := yields_done_iff.mp hts
    rw [List.append_nil]
    exact h.congr fun d => by simp
  | cons entry l ih =>
    obtain ⟨i, d⟩ := entry
    obtain ⟨hd, hl⟩ := List.nodup_cons.mp hl
    obtain ⟨u', ts₁, ts₂, rfl, h₁, h₂⟩ := yields_bind_iff.mp hts
    obtain ⟨a, rest, rfl, hrest⟩ := of_yields_warnOf_close h₁
    -- the table has each device once, so the one that is closed is not among the others
    have hclosed := h.closed (a := a) (d := d) List.mem_cons_self
    have hleft : Possession (· ∈ l.map Prod.snd) (ms ++ [⟨.inl (.closeDevice d), a⟩]) :=
      hclosed.congr fun x => mem_iff_mem_cons_and_ne hd
    have hnext := hleft.minds fun ev hev => .aside (hrest ev hev)
    have hend := ih hnext hl h₂
    simpa using hend

/-- Releasing a driver closes all that it holds. -/
theorem possession_release {u : Unit} (h : b.Owns ms) (hts : b.release.Yields ts u) :
    Possession (fun _ => False) (ms ++ ts) := by
  obtain ⟨v, ts₁, ts₂, rfl, h₁, h₂⟩ := yields_bind_iff.mp hts
  have haround := Owns.around_minds b.devices.Holds b.handler
  have honly := haround.forM fun entry (_ : entry ∈ b.streams.toList) =>
    makes_releaseStream (i := entry.1) haround Owns.minds_stream fun d hd =>
      only_call (fun _ => .aside) (.destroyStream ⟨_, hd⟩ entry.2.block)
  have hstreams := honly.events _ _ h₁
  have hnext := h.possession.minds hstreams
  rw [← List.append_assoc]
  exact possession_closeAll (hnext.congr fun d => b.devices.mem_values_iff) h.distinct.nodup h₂

/-! ## The life of a driver -/

theorem owns_fresh : fresh.Owns [] where
  possession := .congr .nil fun d => iff_of_false (Slots.not_holds_empty d) id
  distinct := Slots.distinct_empty

/-- Whatever is asked of the driver and whatever the library replies, a life ends if the
program does.  No call names a device that is not held, and every device that was opened is
closed once.  It is assumed that the library hands out no device that it has not got back. -/
theorem lifetime_closesOnce {α : Type} (p : Prog Host α) :
    (∀ ms, (lifetime p).Exhausts ms → ∃ es, p.Exhausts es) ∧
    ∀ ms a, (lifetime p).Yields ms a → FreshOpens ms →
      NamesHeld ms ∧ ∀ d, InTurns d (tenure d ms) := by
  constructor
  · intro ms h
    rcases exhausts_bind_iff.mp h with h | ⟨⟨a, b⟩, ms₁, ms₂, rfl, -, h⟩
    · exact exhausts_interpretWith (fun o b => b.ends_operation o) h
    · rcases exhausts_bind_iff.mp h with h | ⟨u, ms₃, ms₄, rfl, -, h⟩
      · exact absurd h (b.ends_release _)
      · exact absurd h not_exhausts_done
  · intro ms a h hfresh
    obtain ⟨⟨a', b⟩, ms₁, ms₂, rfl, h₁, h₂⟩ := yields_bind_iff.mp h
    obtain ⟨u, ts, ms₃, rfl, h₃, h₄⟩ := yields_bind_iff.mp h₂
    obtain ⟨rfl, -⟩ := yields_done_iff.mp h₄
    rw [List.append_nil] at hfresh ⊢
    have howns := owns_host h₁ owns_fresh hfresh.left
    have hend := possession_release howns h₃
    exact ⟨hend.names, fun d => hend.free d id⟩

/-- A client that closes its device and opens it again, asks for a device that was never
issued, and goes with a stream that runs. -/
def carelessClient : Prog Host Unit := do
  let _ ← Host.request (.openDevice "usb")
  let _ ← Host.request (.closeDevice ⟨0⟩)
  let _ ← Host.request (.openDevice "usb")
  let _ ← Host.request (.device ⟨5⟩ .init)
  let _ ← Host.request (.setupStream ⟨0⟩ (.standard ⟨.rx, 0⟩))
  let _ ← Host.request (.startStream ⟨0⟩)

/-- The block of the stream. -/
def carelessBlock : StreamBlock := { serial := 0, number := 3 }

/-- The device is opened and closed; the closing fails. -/
def firstTenure : List (Event Machine) :=
  [⟨.inl (.openDevice "usb"), (⟨0, some ⟨7⟩, []⟩ : Reply (Option DeviceRef))⟩,
    ⟨.inl (.closeDevice ⟨7⟩), (⟨-1, (), []⟩ : Reply Unit)⟩,
    ⟨.inl .getLastErrorMessage, (⟨0, none, []⟩ : Reply (Option (List UInt8)))⟩]

/-- The device is opened again, and a stream is started on it. -/
def secondTenure : List (Event Machine) :=
  [⟨.inl (.openDevice "usb"), (⟨0, some ⟨7⟩, []⟩ : Reply (Option DeviceRef))⟩,
    ⟨.inl (.setupStream ⟨7⟩ { serial := 0, number := 0 } (setupOf (.standard ⟨.rx, 0⟩))),
      (⟨0, some 3, []⟩ : Reply (Option Nat))⟩,
    ⟨.inl (.stream carelessBlock .start), (⟨0, (), []⟩ : Reply Unit)⟩]

/-- Nothing that is given back is taken without a failure. -/
def failingRelease : List (Event Machine) :=
  [⟨.inl (.stream carelessBlock .stop), (⟨-1, (), []⟩ : Reply Unit)⟩,
    ⟨.inl .getLastErrorMessage, (⟨0, none, []⟩ : Reply (Option (List UInt8)))⟩,
    ⟨.inr (.note (.warn "stream 0: stop_stream failed: ")), ()⟩,
    ⟨.inl (.destroyStream ⟨7⟩ carelessBlock), (⟨-1, (), []⟩ : Reply Unit)⟩,
    ⟨.inl .getLastErrorMessage, (⟨0, none, []⟩ : Reply (Option (List UInt8)))⟩,
    ⟨.inr (.note (.warn "stream 0: destroy_stream failed: ")), ()⟩,
    ⟨.inl (.closeDevice ⟨7⟩), (⟨-1, (), []⟩ : Reply Unit)⟩,
    ⟨.inl .getLastErrorMessage, (⟨0, none, []⟩ : Reply (Option (List UInt8)))⟩,
    ⟨.inr (.note (.warn "close failed: ")), ()⟩]

theorem careless_lifetime_closesOnce :
    (lifetime carelessClient).Yields (firstTenure ++ secondTenure ++ failingRelease) () ∧
      FreshOpens (firstTenure ++ secondTenure ++ failingRelease) ∧
      NamesHeld (firstTenure ++ secondTenure ++ failingRelease) ∧
      ∀ d, InTurns d (tenure d (firstTenure ++ secondTenure ++ failingRelease)) := by
  have hserved : (fresh.host carelessClient).Yields (firstTenure ++ secondTenure)
      ((), { devices := ⟨#[some ⟨7⟩]⟩
             streams := ⟨#[some ⟨⟨0⟩, .f32, true, carelessBlock⟩]⟩
             handler := none
             blocks := 1 }) :=
    yields_ite_bind usb_noZeroByte (.ask _ (.ask _ (.ask _ (yields_ite_bind usb_noZeroByte
      (.ask _ (.ask _ (.ask _ (.done _))))))))
  have hlife : (lifetime carelessClient).Yields
      (firstTenure ++ secondTenure ++ failingRelease) () := by
    refine yields_bind_iff.mpr ⟨_, _, _, rfl, hserved, ?_⟩
    exact .ask _ (.ask _ (.ask _ (.ask _ (.ask _ (.ask _ (.ask _ (.ask _ (.ask _ (.done _)))))))))
  have hfirst : FreshOpens firstTenure := by
    have hopen : FreshOpens (firstTenure.take 1) := by
      refine EachAfter.nil.concat fun d _ => ?_
      simp [Held, tenure]
    exact hopen.append_of_ne (by simp [transfer?])
  have hsecond : FreshOpens (firstTenure ++ secondTenure) := by
    have hopen : FreshOpens (firstTenure ++ secondTenure.take 1) := by
      refine hfirst.concat fun d hd => ?_
      obtain rfl : (⟨7⟩ : DeviceRef) = d := by simpa [transfer?] using hd
      simp [Held, tenure, firstTenure, transfer?, Transfer.concerns]
    exact hopen.append_of_ne (by simp [transfer?])
  have hfresh : FreshOpens (firstTenure ++ secondTenure ++ failingRelease) :=
    hsecond.append_of_ne (by simp [failingRelease, transfer?])
  exact ⟨hlife, hfresh, (lifetime_closesOnce carelessClient).2 _ _ hlife hfresh⟩

end Binding

end Native
end RadioBench
