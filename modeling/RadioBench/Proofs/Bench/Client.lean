/-
What a client of the guards asks of a driver, whatever it is answered.

A client program gives commands on guards and goes on with what came of them.  Whatever
it has not given back at its end is dropped then.  Every command is booked in the ledger,
and at the end no guard is left alive, so that each one has had its life.
-/
import RadioBench.Proofs.Bench.Accounts

namespace RadioBench
namespace Bench

open Ledger

/-! ## Entries under a name -/

theorem exists_entry {α : Type} {xs : List (Nat × String × α)} {name : String} {a : α}
    (h : (xs.map Prod.snd).lookup name = some a) :
    ∃ xs₁ i xs₂, xs = xs₁ ++ (i, name, a) :: xs₂ ∧ ∀ x ∈ xs₁, x.2.1 ≠ name := by
  obtain ⟨l₁, l₂, hl, hne⟩ := List.lookup_eq_some_iff.mp h
  obtain ⟨xs₁, xs', rfl, rfl, hxs'⟩ := List.map_eq_append_iff.mp hl
  obtain ⟨⟨i, x⟩, xs₂, rfl, rfl, rfl⟩ := List.map_eq_cons_iff.mp hxs'
  refine ⟨xs₁, i, xs₂, rfl, fun x hx heq => ?_⟩
  simpa [heq] using hne x.2 (List.mem_map_of_mem hx)

theorem eraseP_entry {α : Type} {xs₁ xs₂ : List (Nat × String × α)} {i : Nat} {name : String}
    {a : α} (h : ∀ x ∈ xs₁, x.2.1 ≠ name) :
    ((xs₁ ++ (i, name, a) :: xs₂).map Prod.snd).eraseP (·.1 == name) =
      (xs₁ ++ xs₂).map Prod.snd := by
  rw [List.map_append, List.eraseP_append_right]
  · simp
  · intro x hx
    obtain ⟨y, hy, rfl⟩ := List.mem_map.mp hx
    simpa using h y hy

theorem replaced_entry {ts₁ ts₂ : List (Nat × String × NamedStream)} {i : Nat} {name : String}
    {a : NamedStream} {s : Stream} (h : ∀ x ∈ ts₁, x.2.1 ≠ name) :
    Guards.setStream.replaced name s ((ts₁ ++ (i, name, a) :: ts₂).map Prod.snd) =
      (ts₁ ++ (i, name, ⟨a.device, s⟩) :: ts₂).map Prod.snd := by
  induction ts₁ with
  | nil => simp [Guards.setStream.replaced]
  | cons x ts₁ ih =>
    obtain ⟨hx, hrest⟩ := List.forall_mem_cons.mp h
    simpa [Guards.setStream.replaced, hx] using ih hrest

/-! ## Guards and their ledger -/

/-- The ledger says what guards a bench keeps. -/
def Accounts (L : Ledger) (g : Guards) : Prop :=
  ∃ ds ts, ds.map Prod.snd = g.devices ∧ ts.map Prod.snd = g.streams ∧ Tracks L ds ts

namespace Accounts

variable {L : Ledger} {g : Guards} {name : String}

theorem none : Accounts .empty .none := ⟨[], [], rfl, rfl, .empty⟩

theorem device (hL : Accounts L g) {d : Device} (h : g.device? name = some d) :
    ∃ i, L.device i = .live d.handle := by
  obtain ⟨ds, ts, hds, hts, hT⟩ := hL
  rw [Guards.device?, ← hds] at h
  obtain ⟨ds₁, i, ds₂, rfl, -⟩ := exists_entry h
  exact ⟨i, hT.device _ (Tracks.mem_middle.mpr (.inl rfl))⟩

theorem stream (hL : Accounts L g) {n : NamedStream} (h : g.stream? name = some n) :
    ∃ d t, L.device d = .live n.stream.device ∧
      L.stream t = .live ⟨d, n.stream.device, n.stream.handle, n.stream.running⟩ := by
  obtain ⟨ds, ts, hds, hts, hT⟩ := hL
  rw [Guards.stream?, ← hts] at h
  obtain ⟨ts₁, t, ts₂, rfl, -⟩ := exists_entry h
  obtain ⟨x, hx, -, hhandle, hlive⟩ := hT.stream _ (Tracks.mem_middle.mpr (.inl rfl))
  exact ⟨x.1, t, hhandle ▸ hT.device x hx, hlive⟩

theorem addDevice (hL : Accounts L g) (name : String) (d : Device) :
    ∃ i, L.device i = .unborn ∧
      Accounts (L.setDevice i (.live d.handle)) (g.addDevice name d) := by
  obtain ⟨ds, ts, hds, hts, hT⟩ := hL
  obtain ⟨i, hi, hT'⟩ := hT.insertDevice name d
  exact ⟨i, hi, _, ts, by simp [Guards.addDevice, hds], hts, hT'⟩

theorem removeDevice (hL : Accounts L g) {d : Device} (h : g.device? name = some d)
    (hfree : g.borrowed name = false) :
    ∃ i, L.device i = .live d.handle ∧
      Accounts (L.setDevice i .gone) (g.removeDevice name) := by
  obtain ⟨ds, ts, hds, hts, hT⟩ := hL
  rw [Guards.device?, ← hds] at h
  obtain ⟨ds₁, i, ds₂, rfl, hne⟩ := exists_entry h
  refine ⟨i, hT.device _ (Tracks.mem_middle.mpr (.inl rfl)), ds₁ ++ ds₂, ts, ?_, hts, ?_⟩
  · rw [Guards.removeDevice, ← hds, eraseP_entry hne]
  · refine hT.eraseDevice fun y hy => ?_
    simp only [Guards.borrowed, ← hts, List.any_map, List.any_eq_false, Function.comp_apply,
      beq_iff_eq] at hfree
    exact hfree y hy

theorem addStream (hL : Accounts L g) {device : String} {d : Device}
    (h : g.device? device = some d) (name : String) :
    ∃ i t, L.device i = .live d.handle ∧ L.stream t = .unborn ∧ ∀ s : Stream,
      s.device = d.handle →
        Accounts (L.setStream t (.live ⟨i, s.device, s.handle, s.running⟩))
          (g.addStream name device s) := by
  obtain ⟨ds, ts, hds, hts, hT⟩ := hL
  rw [Guards.device?, ← hds] at h
  obtain ⟨ds₁, i, ds₂, rfl, -⟩ := exists_entry h
  have hx : (i, device, d) ∈ ds₁ ++ (i, device, d) :: ds₂ := Tracks.mem_middle.mpr (.inl rfl)
  obtain ⟨t, ht, hT'⟩ := hT.insertStream hx name
  refine ⟨i, t, hT.device _ hx, ht, fun s hs => ⟨_, _, hds, ?_, hT' s hs⟩⟩
  simp [Guards.addStream, hts]

theorem setStream (hL : Accounts L g) {n : NamedStream} (h : g.stream? name = some n) :
    ∃ d t, L.stream t = .live ⟨d, n.stream.device, n.stream.handle, n.stream.running⟩ ∧
      ∀ s : Stream, s.device = n.stream.device → s.handle = n.stream.handle →
        Accounts (L.setStream t (.live ⟨d, s.device, s.handle, s.running⟩))
          (g.setStream name s) := by
  obtain ⟨ds, ts, hds, hts, hT⟩ := hL
  rw [Guards.stream?, ← hts] at h
  obtain ⟨ts₁, t, ts₂, rfl, hne⟩ := exists_entry h
  obtain ⟨x, hx, -, hhandle, hlive⟩ := hT.stream _ (Tracks.mem_middle.mpr (.inl rfl))
  refine ⟨x.1, t, hlive, fun s hdevice hstream => ⟨ds, _, hds, ?_, hT.setStream s hdevice ?_⟩⟩
  · rw [Guards.setStream, ← hts, replaced_entry hne]
  · rw [hdevice, hstream]
    exact hlive

theorem removeStream (hL : Accounts L g) {n : NamedStream} (h : g.stream? name = some n) :
    ∃ d t, L.device d = .live n.stream.device ∧
      L.stream t = .live ⟨d, n.stream.device, n.stream.handle, n.stream.running⟩ ∧
        Accounts (L.setStream t .gone) (g.removeStream name) := by
  obtain ⟨ds, ts, hds, hts, hT⟩ := hL
  rw [Guards.stream?, ← hts] at h
  obtain ⟨ts₁, t, ts₂, rfl, hne⟩ := exists_entry h
  obtain ⟨x, hx, -, hhandle, hlive⟩ := hT.stream _ (Tracks.mem_middle.mpr (.inl rfl))
  refine ⟨x.1, t, hhandle ▸ hT.device x hx, hlive, ds, ts₁ ++ ts₂, hds, ?_, hT.eraseStream⟩
  rw [Guards.removeStream, ← hts, eraseP_entry hne]

end Accounts

/-! ## Commands -/

/-- Events that are booked, with a ledger that agrees with the guards afterwards. -/
def Booked (L : Ledger) (es : List (Event Host)) (g : Guards) : Prop :=
  ∃ M, Path Books L es M ∧ Accounts M g

section Commands

variable {α : Type} {L : Ledger} {g g' : Guards} {name : String} {es : List (Event Host)}
  {r : Except Refusal α}

theorem Booked.answer {M : Ledger} {es' : List (Event Host)} {x : Except Refusal α}
    (hpath : Path Books L es M) (hM : Accounts M g)
    (h : (pure (x, g) : Prog Host (Guards.Outcome α)).Yields es' (r, g')) :
    Booked L (es ++ es') g' := by
  obtain ⟨rfl, heq⟩ := Prog.yields_done_iff.mp h
  obtain ⟨-, rfl⟩ := Prod.mk.inj heq
  rw [List.append_nil]
  exact ⟨M, hpath, hM⟩

theorem booked_pure (hL : Accounts L g) {x : Except Refusal α}
    (h : (pure (x, g) : Prog Host (Guards.Outcome α)).Yields es (r, g')) : Booked L es g' :=
  .answer (.nil L) hL h

theorem booked_withDevice (hL : Accounts L g) {f : Device → Prog Host (Guards.Outcome α)}
    (h : (g.withDevice name f).Yields es (r, g'))
    (hf : ∀ d, g.device? name = some d → (f d).Yields es (r, g') → Booked L es g') :
    Booked L es g' := by
  rw [Guards.withDevice] at h
  cases hd : g.device? name with
  | none =>
    rw [hd] at h
    exact booked_pure hL h
  | some d =>
    rw [hd] at h
    exact hf d hd h

theorem booked_giveBack (hL : Accounts L g) {f : Device → Prog Host α}
    (h : (g.giveBack name f).Yields es (r, g'))
    (hf : ∀ d i es a, L.device i = .live d.handle → (f d).Yields es a →
      Path Books L es (L.setDevice i .gone)) : Booked L es g' := by
  refine booked_withDevice hL h fun d hd h' => ?_
  cases hfree : g.borrowed name with
  | true =>
    rw [hfree, if_pos rfl] at h'
    exact booked_pure hL h'
  | false =>
    rw [hfree, if_neg Bool.false_ne_true] at h'
    obtain ⟨a, es₁, es₂, rfl, h₁, h₂⟩ := Prog.yields_bind_iff.mp h'
    obtain ⟨i, hi, hL'⟩ := hL.removeDevice hd hfree
    exact .answer (hf d i es₁ a hi h₁) hL' h₂

theorem booked_withStream (hL : Accounts L g) {f : Stream → Prog Host (Guards.Outcome α)}
    (h : (g.withStream name f).Yields es (r, g'))
    (hf : ∀ n, g.stream? name = some n → (f n.stream).Yields es (r, g') → Booked L es g') :
    Booked L es g' := by
  rw [Guards.withStream] at h
  cases hn : g.stream? name with
  | none =>
    rw [hn] at h
    exact booked_pure hL h
  | some n =>
    rw [hn] at h
    exact hf n hn h

theorem booked_look (hL : Accounts L g) {p : Prog Host α} (h : (g.look p).Yields es (r, g'))
    (hp : ∀ es a, p.Yields es a → Path Books L es L) : Booked L es g' := by
  obtain ⟨a, es₁, es₂, rfl, h₁, h₂⟩ := Prog.yields_bind_iff.mp h
  exact .answer (hp es₁ a h₁) hL h₂

theorem booked_lookDevice (hL : Accounts L g) {p : Device → Prog Host α}
    (h : (g.withDevice name fun d => g.look (p d)).Yields es (r, g'))
    (hp : ∀ d i es a, L.device i = .live d.handle → (p d).Yields es a → Path Books L es L) :
    Booked L es g' :=
  booked_withDevice hL h fun d hd h' =>
    let ⟨i, hi⟩ := hL.device hd
    booked_look hL h' fun es a => hp d i es a hi

theorem booked_lookStream (hL : Accounts L g) {p : Stream → Prog Host α}
    (h : (g.withStream name fun s => g.look (p s)).Yields es (r, g'))
    (hp : ∀ s d t es a, L.stream t = .live ⟨d, s.device, s.handle, s.running⟩ →
      (p s).Yields es a → Path Books L es L) : Booked L es g' :=
  booked_withStream hL h fun n hn h' =>
    let ⟨d, t, _, ht⟩ := hL.stream hn
    booked_look hL h' fun es a => hp n.stream d t es a ht

theorem booked_change (hL : Accounts L g) {f : Stream → Attempt Stream}
    {r : Except Refusal (Except Error Unit)} (h : (g.change name f).Yields es (r, g'))
    (hok : ∀ s d t es x, L.stream t = .live ⟨d, s.device, s.handle, s.running⟩ →
      (f s).run.Yields es (.ok x) →
        Path Books L es (L.setStream t (.live ⟨d, x.device, x.handle, x.running⟩)) ∧
          x.device = s.device ∧ x.handle = s.handle)
    (herror : ∀ s d t es e, L.stream t = .live ⟨d, s.device, s.handle, s.running⟩ →
      (f s).run.Yields es (.error e) → Path Books L es L) : Booked L es g' := by
  refine booked_withStream hL h fun n hn h' => ?_
  obtain ⟨d, t, ht, hL'⟩ := hL.setStream hn
  obtain ⟨x, es₁, es₂, rfl, h₁, h₂⟩ := Prog.yields_bind_iff.mp h'
  cases x with
  | ok s =>
    obtain ⟨hpath, hdevice, hhandle⟩ := hok _ _ _ _ _ ht h₁
    exact .answer hpath (hL' s hdevice hhandle) h₂
  | error e => exact .answer (herror _ _ _ _ _ ht h₁) hL h₂

theorem booked_endStream {β : Type} (hL : Accounts L g) {p : Stream → Prog Host β}
    {f : β → Except Refusal α}
    (h : (g.withStream name fun s => do
      let a ← p s
      pure (f a, g.removeStream name)).Yields es (r, g'))
    (hp : ∀ s d t es a, L.device d = .live s.device →
      L.stream t = .live ⟨d, s.device, s.handle, s.running⟩ → (p s).Yields es a →
        Path Books L es (L.setStream t .gone)) : Booked L es g' := by
  refine booked_withStream hL h fun n hn h' => ?_
  obtain ⟨d, t, hd, ht, hL'⟩ := hL.removeStream hn
  obtain ⟨a, es₁, es₂, rfl, h₁, h₂⟩ := Prog.yields_bind_iff.mp h'
  exact .answer (hp _ _ _ _ _ hd ht h₁) hL' h₂

/-- Only devices and streams are kept in the ledger. -/
theorem Accounts.scopes (hL : Accounts L g) (names : List String) :
    Accounts L { g with scopes := names } := hL

end Commands

theorem booked_execute {budget : Nat} {L : Ledger} {g g' : Guards} {c : Command}
    {es : List (Event Host)} {r : Except Refusal c.Result} (hL : Accounts L g)
    (h : (g.execute budget c).Yields es (r, g')) : Booked L es g' := by
  cases c with
  | enterLog handler name =>
    obtain ⟨u, es₁, es₂, rfl, h₁, h₂⟩ := Prog.yields_bind_iff.mp h
    obtain rfl := LogScope.of_yields_enter h₁
    exact .answer (path_keeps (by simp [Event.request?, keeps_register])) (hL.scopes _) h₂
  | leaveLog name =>
    rw [Guards.execute] at h
    split at h
    · obtain ⟨u, es₁, es₂, rfl, h₁, h₂⟩ := Prog.yields_bind_iff.mp h
      obtain rfl := Host.yields_request_iff.mp h₁
      exact .answer (path_keeps (by simp [Event.request?, keeps_register])) (hL.scopes _) h₂
    · exact booked_pure hL h
  | openDevice info name =>
    obtain ⟨x, es₁, es₂, rfl, h₁, h₂⟩ := Prog.yields_bind_iff.mp h
    cases x with
    | ok d =>
      obtain ⟨i, hi, hL'⟩ := hL.addDevice name d
      exact .answer (path_opened hi h₁) hL' h₂
    | error e => exact .answer (path_not_opened h₁) hL h₂
  | closeDevice name => exact booked_giveBack hL h fun d i es a hi h' => path_close hi h'
  | dropDevice name => exact booked_giveBack hL h fun d i es a hi h' => path_dropDevice hi h'
  | deviceInfo name => exact booked_withDevice hL h fun d hd h' => booked_pure hL h'
  | deviceHandle name => exact booked_withDevice hL h fun d hd h' => booked_pure hL h'
  | device name call =>
    refine booked_lookDevice hL h fun d i es a hi h' => ?_
    obtain rfl := Device.yields_call_iff.mp h'
    exact .single (keeps_device hi call a)
  | channelId name ch => exact booked_withDevice hL h fun d hd h' => booked_pure hL h'
  | channel name ch call => exact booked_lookDevice hL h fun d i es a hi h' => path_channel hi h'
  | configure name settings =>
    exact booked_lookDevice hL h fun d i es a hi h' => path_configure hi h'
  | setupStream device config name =>
    refine booked_withDevice hL h fun d hd h' => ?_
    obtain ⟨i, t, hi, ht, hL'⟩ := hL.addStream hd name
    obtain ⟨x, es₁, es₂, rfl, h₁, h₂⟩ := Prog.yields_bind_iff.mp h'
    cases x with
    | ok s =>
      obtain ⟨hpath, hdevice⟩ := path_setup hi ht h₁
      exact .answer hpath (hL' s hdevice) h₂
    | error e => exact .answer (path_not_setup hi h₁) hL h₂
  | streamConfig name =>
    rw [Guards.execute] at h
    exact booked_withStream hL h fun n hn h' => booked_pure hL h'
  | streamHandle name =>
    rw [Guards.execute] at h
    exact booked_withStream hL h fun n hn h' => booked_pure hL h'
  | isRunning name =>
    rw [Guards.execute] at h
    exact booked_withStream hL h fun n hn h' => booked_pure hL h'
  | start name =>
    exact booked_change hL h (fun s d t es x ht h' => path_start ht h')
      (fun s d t es e ht h' => path_not_start ht h')
  | stop name =>
    exact booked_change hL h (fun s d t es x ht h' => path_stop ht h')
      (fun s d t es e ht h' => path_not_stop ht h')
  | recv name buffer info timeout =>
    rw [Guards.execute] at h
    refine booked_lookStream hL h fun s d t es a ht h' => ?_
    obtain rfl := Stream.of_yields_recv h'
    exact .single (keeps_recv ht _ _ _ a)
  | send name buffer count info timeout =>
    rw [Guards.execute] at h
    refine booked_lookStream hL h fun s d t es a ht h' => ?_
    obtain rfl := Host.yields_request_iff.mp h'
    exact .single (keeps_send ht _ _ _ _ a)
  | status name =>
    refine booked_lookStream hL h fun s d t es a ht h' => ?_
    obtain rfl := Host.yields_request_iff.mp h'
    exact .single (keeps_status ht a)
  | receiveFor name buffer timing =>
    rw [Guards.execute] at h
    exact booked_lookStream hL h fun s d t es a ht h' => path_receiveFor ht h'
  | destroyStream name =>
    exact booked_endStream hL h fun s d t es a hd ht h' => path_destroy hd ht h'
  | dropStream name =>
    exact booked_endStream (f := fun _ => .ok ()) hL h fun s d t es a hd ht h' =>
      path_dropStream hd ht h'

/-! ## Client programs -/

/-- Commands, and what comes of them. -/
def Commands : Signature where
  Op := Command
  Reply c := Except Refusal c.Result

/-- Carry a client program out with no guards at first, and drop what it leaves. -/
def client {α : Type} (budget : Nat) (p : Prog Commands α) : Prog Host α := do
  let (a, g) ← p.interpretWith (S := Commands) (T := Host)
    (fun c g => g.execute budget c) Guards.none
  g.finish
  pure a

section Finish

variable {L : Ledger} {es : List (Event Host)} {u : PUnit}

theorem booked_dropStreams {ds : List (Nat × String × Device)}
    {ts : List (Nat × String × NamedStream)} (hT : Tracks L ds ts)
    (h : ((ts.map Prod.snd).forM fun e => e.2.stream.drop).Yields es u) :
    ∃ M, Path Books L es M ∧ Tracks M ds [] := by
  induction ts generalizing L es with
  | nil =>
    obtain ⟨rfl, -⟩ := Prog.yields_done_iff.mp h
    exact ⟨L, .nil L, hT⟩
  | cons y ts ih =>
    rw [List.map_cons] at h
    obtain ⟨v, es₁, es₂, rfl, h₁, h₂⟩ := Prog.yields_bind_iff.mp h
    obtain ⟨x, hx, -, hhandle, hlive⟩ := hT.stream y List.mem_cons_self
    have hpath := path_dropStream (hhandle ▸ hT.device x hx) hlive h₁
    have hfirst : Tracks L ds ([] ++ y :: ts) := hT
    obtain ⟨M, hM, hrest⟩ := ih hfirst.eraseStream h₂
    exact ⟨M, hpath.append hM, hrest⟩

theorem booked_dropDevices {ds : List (Nat × String × Device)} (hT : Tracks L ds [])
    (h : ((ds.map Prod.snd).forM fun e => e.2.drop).Yields es u) :
    ∃ M, Path Books L es M ∧ Tracks M [] [] := by
  induction ds generalizing L es with
  | nil =>
    obtain ⟨rfl, -⟩ := Prog.yields_done_iff.mp h
    exact ⟨L, .nil L, hT⟩
  | cons x ds ih =>
    rw [List.map_cons] at h
    obtain ⟨v, es₁, es₂, rfl, h₁, h₂⟩ := Prog.yields_bind_iff.mp h
    have hpath := path_dropDevice (hT.device x List.mem_cons_self) h₁
    have hfirst : Tracks L ([] ++ x :: ds) [] := hT
    obtain ⟨M, hM, hrest⟩ := ih (hfirst.eraseDevice (by simp)) h₂
    exact ⟨M, hpath.append hM, hrest⟩

theorem booked_leaveScopes {names : List String}
    (h : (names.forM fun _ => LogScope.leave).Yields es u) : Path Books L es L := by
  induction names generalizing es with
  | nil =>
    obtain ⟨rfl, -⟩ := Prog.yields_done_iff.mp h
    exact .nil L
  | cons name names ih =>
    obtain ⟨v, es₁, es₂, rfl, h₁, h₂⟩ := Prog.yields_bind_iff.mp h
    obtain rfl := Host.yields_request_iff.mp h₁
    exact .cons (keeps_register none ()) (ih h₂)

theorem booked_finish {g : Guards} (hL : Accounts L g) (h : g.finish.Yields es u) :
    ∃ M, Path Books L es M ∧ Tracks M [] [] := by
  obtain ⟨ds, ts, hds, hts, hT⟩ := hL
  rw [Guards.finish, ← hds, ← hts] at h
  obtain ⟨v, es₁, es₂, rfl, h₁, h₂⟩ := Prog.yields_bind_iff.mp h
  obtain ⟨w, es₃, es₄, rfl, h₃, h₄⟩ := Prog.yields_bind_iff.mp h₂
  obtain ⟨M, hM, hstreams⟩ := booked_dropStreams hT h₁
  obtain ⟨N, hN, hdevices⟩ := booked_dropDevices hstreams h₃
  exact ⟨N, hM.append (hN.append (booked_leaveScopes h₄)), hdevices⟩

end Finish

section Client

variable {α : Type} {budget : Nat} {p : Prog Commands α} {es : List (Event Host)} {a : α}

theorem booked_client (h : (client budget p).Yields es a) :
    ∃ M, Path Books .empty es M ∧ Tracks M [] [] := by
  obtain ⟨⟨a', g⟩, es₁, es₂, rfl, h₁, h₂⟩ := Prog.yields_bind_iff.mp h
  obtain ⟨u, es₃, es₄, rfl, h₃, h₄⟩ := Prog.yields_bind_iff.mp h₂
  obtain ⟨rfl, -⟩ := Prog.yields_done_iff.mp h₄
  obtain ⟨cs, -, hpath⟩ := Prog.yields_interpretWith (S := Commands) h₁ []
  have hbooked : ∃ L, Path Books .empty ([] ++ es₁) L ∧ Accounts L g := by
    refine hpath.invariant (P := fun x => ∃ L, Path Books .empty x.2 L ∧ Accounts L x.1) ?_
      ⟨.empty, .nil _, .none⟩
    rintro ⟨c, r⟩ ⟨g₁, before⟩ ⟨g₂, after⟩ ⟨ts, hts, rfl⟩ ⟨L, hL, hg⟩
    obtain ⟨M, hM, hg'⟩ := booked_execute hg hts
    exact ⟨M, hL.append hM, hg'⟩
  obtain ⟨L, hL, hg⟩ := hbooked
  obtain ⟨M, hM, hT⟩ := booked_finish hg h₃
  exact ⟨M, by simpa using hL.append hM, hT⟩

/-- The contract of the guards, whatever a client program does with devices and streams
and whatever the driver answers: what begins with one success ends with one call that gives
the resource back, and all calls in between go by the same handle. -/
theorem client_keepsContract (h : (client budget p).Yields es a) : Deed.KeepsContract es := by
  obtain ⟨M, hM, hT⟩ := booked_client h
  obtain ⟨deeds, htells, hposts⟩ := Ledger.exists_deeds hM
  refine ⟨deeds, htells, fun d => ?_, fun t => ?_⟩
  · refine Deed.deviceLife_of_path (Ledger.path_device hposts d) fun h hlive => ?_
    simpa using hT.deviceMem d h hlive
  · refine Deed.streamLife_of_path (Ledger.path_stream hposts t) fun s hlive => ?_
    simpa using hT.streamMem t s hlive

end Client

/-- A client that leaves its stream running and its device open. -/
def careless : Prog Commands Unit :=
  .ask (.openDevice "usb" "d") fun _ =>
    .ask (.setupStream "d" (SmokeTest.Settings.standard ⟨[]⟩).streamConfig "s") fun _ =>
      .ask (.start "s") fun _ => .ask (.stop "s") fun _ => .done ()

/-- A driver that neither stops nor destroys the stream. -/
def stubbornEvents : List (Event Host) :=
  [⟨.inl (.openDevice "usb"), .ok ⟨0⟩⟩, ⟨.inr (.note (.debug "opened usb as DeviceHandle(0)")), ()⟩,
    ⟨.inl (.setupStream ⟨0⟩ (SmokeTest.Settings.standard ⟨[]⟩).streamConfig), .ok ⟨1⟩⟩,
    ⟨.inr (.note (.debug "stream StreamHandle(1) set up on RX0")), ()⟩,
    ⟨.inl (.startStream ⟨1⟩), .ok ()⟩, ⟨.inl (.stopStream ⟨1⟩), .error .invalidHandle⟩,
    ⟨.inl (.stopStream ⟨1⟩), .error .invalidHandle⟩,
    ⟨.inr (.note (.warn "error stopping stream StreamHandle(1): Invalid Handle")), ()⟩,
    ⟨.inl (.destroyStream ⟨0⟩ ⟨1⟩), .error .invalidHandle⟩,
    ⟨.inr (.note (.warn "error destroying stream: Invalid Handle")), ()⟩,
    ⟨.inl (.closeDevice ⟨0⟩), .ok ()⟩]

theorem careless_client_keepsContract :
    (client 0 careless).Yields stubbornEvents () ∧ Deed.KeepsContract stubbornEvents := by
  have h : (client 0 careless).Yields stubbornEvents () :=
    .ask _ (.ask _ (.ask _ (.ask _ (.ask _ (.ask _ (.ask _ (.ask _ (.ask _ (.ask _ (.ask _
      (.done _)))))))))))
  exact ⟨h, client_keepsContract h⟩

end Bench
end RadioBench
