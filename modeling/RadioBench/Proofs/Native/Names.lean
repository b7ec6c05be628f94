/-
The lists of names that the library keeps.

A list is asked for twice.  The first reply says how many names there are, and when there are
some, the library fills a list of entries of a fixed width.  An entry holds a name up to its
first zero byte, or up to its end.

Both lists are read by one program, `readList`, so `listed_readList` is about all ways that
the library can reply.  What it says of a list that was filled is then compared with what the
library put there: `content_written` gives the bytes of a name back from its entry, and
`lossy_encode` the name from its bytes.
-/
import RadioBench.Proofs.Native.Custody
import RadioBench.Proofs.Native.Numbers
import RadioBench.Proofs.Text.Utf8

namespace RadioBench
namespace Native

open Prog Text

/-- A list of names that the library keeps. -/
inductive NameList
  | devices
  | antennas (d : DeviceRef) (isTx : Bool) (index : UInt32)

namespace NameList

/-- The operation that a failure names. -/
def operation : NameList → String
  | devices => "device_list"
  | antennas .. => "antenna_list"

/-- The bytes of an entry. -/
def width : NameList → Nat
  | devices => 256
  | antennas .. => 16

/-- The entries of the list that is filled, when the library counted so many names. -/
def room (count : Nat) : NameList → Nat
  | devices => count + 16
  | antennas .. => count

/-- The library is asked to count the names, or to fill a list with so much room. -/
def ask : NameList → Option Nat → Reply (List (List UInt8)) → Event Machine
  | devices, room => Call.event (.getDeviceList room)
  | antennas d isTx index, room => Call.event (.channel d isTx index (.getAntennaList room))

/-- How it comes out that the library is asked for the list once. -/
abbrev Tells (l : NameList) (room : Option Nat) :
    List (Event Machine) → Except Error (Nat × List (List UInt8)) → Prop :=
  Asked l.operation (l.ask room) (0 ≤ ·) fun a => (a.code.toNat, a.out)

/-- The names in the first entries of a list of zeros, after the library stored some bytes in
each. -/
def names (l : NameList) (count : Nat) (entries : List (List UInt8)) : List String :=
  (List.range count).map fun i =>
    Utf8.lossy ((CString.entry l.width (entries.getD i [])).takeWhile (· ≠ 0))

/-- How a list is read. -/
inductive Listed (l : NameList) : List (Event Machine) → Except Error (List String) → Prop
  | notCounted {ms : List (Event Machine)} {e : Error} (hcount : l.Tells none ms (.error e)) :
      Listed l ms (.error e)
  | empty {ms : List (Event Machine)} {entries : List (List UInt8)}
      (hcount : l.Tells none ms (.ok (0, entries))) : Listed l ms (.ok [])
  | notFilled {ms ms' : List (Event Machine)} {n : Nat} {entries : List (List UInt8)} {e : Error}
      (hcount : l.Tells none ms (.ok (n, entries))) (hn : 0 < n)
      (hfill : l.Tells (some (l.room n)) ms' (.error e)) : Listed l (ms ++ ms') (.error e)
  | grew {ms ms' : List (Event Machine)} {n m : Nat} {entries entries' : List (List UInt8)}
      (hcount : l.Tells none ms (.ok (n, entries))) (hn : 0 < n)
      (hfill : l.Tells (some (l.room n)) ms' (.ok (m, entries'))) (hm : l.room n < m) :
      Listed l (ms ++ ms') (.error (.failed l.operation "list grew while it was being read"))
  | filled {ms ms' : List (Event Machine)} {n m : Nat} {entries entries' : List (List UInt8)}
      (hcount : l.Tells none ms (.ok (n, entries))) (hn : 0 < n)
      (hfill : l.Tells (some (l.room n)) ms' (.ok (m, entries'))) (hm : m ≤ l.room n) :
      Listed l (ms ++ ms') (.ok (l.names m entries'))

/-- What the library stores in an entry for a name: its bytes, and perhaps a zero byte with
whatever was in memory behind it. -/
inductive Written (name : String) : List UInt8 → Prop
  | bare : Written name (Utf8.encode name)
  | terminated (stale : List UInt8) : Written name (Utf8.encode name ++ 0 :: stale)

/-- A name without zero bytes that fits into an entry. -/
def Fits (l : NameList) (name : String) : Prop :=
  0 ∉ Utf8.encode name ∧ (Utf8.encode name).length ≤ l.width

variable {l : NameList} {ms : List (Event Machine)}

theorem ask_inj {room room' : Option Nat} {a a' : Reply (List (List UInt8))}
    (h : l.ask room a = l.ask room' a') : room = room' ∧ a = a' := by
  cases l <;> cases h <;> exact ⟨rfl, rfl⟩

theorem not_aside_ask {room : Option Nat} {a : Reply (List (List UInt8))} :
    ¬ Aside (l.ask room a) := by
  intro h
  cases l <;> cases h

/-- The one reply that was given is the one that counts. -/
theorem of_tells {room room' : Option Nat} {x : Except Error (Nat × List (List UInt8))}
    {f : Reply (List (List UInt8))} (h : l.Tells room ms x) (hf : l.ask room' f ∈ ms) :
    room' = room ∧ (0 ≤ f.code → x = .ok (f.code.toNat, f.out)) := by
  cases h with
  | succeeded a hcode hnotes =>
    rcases List.mem_cons.mp hf with hhead | hnote
    · obtain ⟨rfl, rfl⟩ := ask_inj hhead
      exact ⟨rfl, fun _ => rfl⟩
    · exact absurd (hnotes.aside _ hnote) not_aside_ask
  | failed a last hcode hnotes hnotes' =>
    rcases List.mem_cons.mp hf with hhead | hrest
    · obtain ⟨rfl, rfl⟩ := ask_inj hhead
      exact ⟨rfl, fun hgood => absurd hgood hcode⟩
    · have hquery := List.forall_mem_cons.mpr ⟨Aside.query last, hnotes'.aside⟩
      have haside := List.forall_mem_append.mpr ⟨hnotes.aside, hquery⟩
      exact absurd (haside _ hrest) not_aside_ask

end NameList

/-! ## Reading a list -/

namespace Binding

variable {b b' : Binding} {l : NameList} {ms : List (Event Machine)}

/-- Ask for the list once. -/
def tells (b : Binding) : (l : NameList) → Option Nat → Action (Nat × List (List UInt8))
  | .devices, room => b.counting "device_list" (.getDeviceList room)
  | .antennas d isTx index, room =>
    b.counting "antenna_list" (.channel d isTx index (.getAntennaList room))

/-- Read one of the lists. -/
def readList (b : Binding) (l : NameList) : Action (List String) := do
  let (n, _) ← b.tells l none
  if n = 0 then pure []
  else
    let (m, entries) ← b.tells l (some (l.room n))
    checkedNames l.operation l.width (l.room n) m entries

theorem deviceList_eq : b.deviceList = b.readList .devices := rfl

theorem antennaList_eq {d : DeviceRef} {ch : ChannelId} :
    b.antennaList d ch = b.readList (.antennas d ch.direction.isTx ch.index) := rfl

theorem tells_of_yields {room : Option Nat} {x : Except Error (Nat × List (List UInt8))}
    (h : (b.tells l room).run.Yields ms x) : l.Tells room ms x := by
  cases l with
  | devices => exact asked_counting h
  | antennas d isTx index => exact asked_counting h

/-- Cutting an entry, or filling it up with zeros, does not change what stands before its first
zero byte. -/
theorem content_entry_eq (width : Nat) (bs : List UInt8) :
    CString.content (CString.entry width bs) = CString.content (bs.take width) := by
  rw [CString.entry, CString.content, CString.content, List.takeWhile_append]
  split
  case isTrue hall =>
    rw [(List.takeWhile_prefix _).eq_of_length hall]
    cases width - (bs.take width).length with
    | zero => simp
    | succ k => simp [List.replicate_succ]
  case isFalse => rfl

theorem namesOf_eq (count : Nat) (entries : List (List UInt8)) :
    namesOf l.width count entries = l.names count entries := by
  refine List.map_congr_left fun i _ => ?_
  rw [CString.read, ← content_entry_eq]
  rfl

theorem listed_readList {x : Except Error (List String)} (h : (b.readList l).run.Yields ms x) :
    l.Listed ms x := by
  rcases yields_run_bind_iff.mp h with ⟨⟨n, entries⟩, ms₁, ms₂, rfl, hcount, h⟩ | ⟨e, rfl, hcount⟩
  · have hcount := tells_of_yields hcount
    by_cases hn : n = 0
    · subst hn
      obtain ⟨rfl, rfl⟩ := yields_run_pure_iff.mp h
      rw [List.append_nil]
      exact .empty hcount
    · simp only [if_neg hn] at h
      have hpos : 0 < n := Nat.pos_of_ne_zero hn
      rcases yields_run_bind_iff.mp h with
        ⟨⟨m, entries'⟩, ms₃, ms₄, rfl, hfill, h⟩ | ⟨e, rfl, hfill⟩
      · have hfill := tells_of_yields hfill
        by_cases hm : l.room n < m
        · simp only [checkedNames, if_pos hm] at h
          obtain ⟨rfl, rfl⟩ := yields_run_throw_iff.mp h
          rw [List.append_nil]
          exact .grew hcount hpos hfill hm
        · simp only [checkedNames, if_neg hm] at h
          obtain ⟨rfl, rfl⟩ := yields_run_pure_iff.mp h
          rw [List.append_nil, namesOf_eq]
          exact .filled hcount hpos hfill (by omega)
      · exact .notFilled hcount hpos (tells_of_yields hfill)
  · exact .notCounted (tells_of_yields hcount)

/-! ## What the library stored -/

theorem content_written {name : String} {bs : List UInt8} (hfit : l.Fits name)
    (hbs : NameList.Written name bs) :
    CString.content (CString.entry l.width bs) = Utf8.encode name := by
  obtain ⟨hzero, hlength⟩ := hfit
  have hall : ∀ b ∈ Utf8.encode name, b ≠ 0 := fun b hb hb0 => hzero (hb0 ▸ hb)
  cases hbs with
  | bare => exact CString.content_entry hlength hall
  | terminated stale =>
    -- What is left of the zero byte and of the rest behind it is not read.
    have htake : (Utf8.encode name ++ 0 :: stale).take l.width =
        Utf8.encode name ++ (0 :: stale).take (l.width - (Utf8.encode name).length) := by
      rw [List.take_append, List.take_of_length_le hlength]
    rw [content_entry_eq, htake, CString.content,
      List.takeWhile_append_of_pos (by simpa using hall)]
    cases l.width - (Utf8.encode name).length with
    | zero => simp
    | succ k => simp

theorem names_of_written {written : List String} {entries : List (List UInt8)}
    (hfit : ∀ name ∈ written, l.Fits name)
    (hentries : ∀ i (hi : i < written.length), NameList.Written written[i] (entries.getD i [])) :
    l.names written.length entries = written := by
  refine List.ext_getElem (by simp [NameList.names]) fun i hi hi' => ?_
  have hcontent := content_written (hfit _ (List.getElem_mem hi')) (hentries i hi')
  simp only [NameList.names, List.getElem_map, List.getElem_range]
  exact (congrArg Utf8.lossy hcontent).trans (Utf8.lossy_encode _)

theorem ok_of_listed {x : Except Error (List String)} {room : Nat}
    {fill : Reply (List (List UInt8))} {written : List String} (h : l.Listed ms x)
    (hfill : l.ask (some room) fill ∈ ms) (hcode : fill.code = written.length)
    (hroom : written.length ≤ room) (hfit : ∀ name ∈ written, l.Fits name)
    (hentries : ∀ i (hi : i < written.length),
      NameList.Written written[i] (fill.out.getD i [])) : x = .ok written := by
  have hgood : 0 ≤ fill.code := by omega
  have htoNat : fill.code.toNat = written.length := by omega
  -- The count was the first question, so the fill is the second.
  have hsecond : ∀ {n : Nat} {ms₁ ms₂ : List (Event Machine)}
      {y y' : Except Error (Nat × List (List UInt8))}, l.Tells none ms₁ y →
      l.Tells (some n) ms₂ y' → l.ask (some room) fill ∈ ms₁ ++ ms₂ →
      room = n ∧ y' = .ok (written.length, fill.out) := by
    intro n ms₁ ms₂ y y' hcount hfill' hmem
    rcases List.mem_append.mp hmem with hmem | hmem
    · exact absurd (NameList.of_tells hcount hmem).1 (by simp)
    · obtain ⟨hn, hy⟩ := NameList.of_tells hfill' hmem
      exact ⟨Option.some.inj hn, htoNat ▸ hy hgood⟩
  cases h with
  | notCounted hcount => exact absurd (NameList.of_tells hcount hfill).1 (by simp)
  | empty hcount => exact absurd (NameList.of_tells hcount hfill).1 (by simp)
  | notFilled hcount hn hfill' =>
    obtain ⟨-, hy⟩ := hsecond hcount hfill' hfill
    cases hy
  | grew hcount hn hfill' hm =>
    obtain ⟨rfl, hy⟩ := hsecond hcount hfill' hfill
    cases hy
    omega
  | filled hcount hn hfill' hm =>
    obtain ⟨-, hy⟩ := hsecond hcount hfill' hfill
    cases hy
    rw [names_of_written hfit hentries]

/-- The client asks for a list, that of a channel's antennas by a live handle. -/
inductive Reads (b : Binding) :
    NameList → List (Event Machine) → Except Error (List String) → Binding → Prop
  | devices {ms : List (Event Machine)} {x : Except Error (List String)} {b' : Binding}
      (h : (b.perform .deviceList).Yields ms (x, b')) : Reads b .devices ms x b'
  | antennas {handle : DeviceHandle} {d : DeviceRef} {ch : ChannelId} {isTx : Bool}
      {ms : List (Event Machine)} {x : Except Error (List String)} {b' : Binding}
      (hd : b.devices.get? handle.index = some d) (hflag : ch.direction.Flagged isTx)
      (h : (b.perform (.channel handle ch .antennaList)).Yields ms (x, b')) :
      Reads b (.antennas d isTx ch.index) ms x b'

theorem yields_of_reads {x : Except Error (List String)} (h : b.Reads l ms x b') :
    (b.readList l).run.Yields ms x ∧ b' = b := by
  cases h with
  | devices h =>
    rw [← deviceList_eq]
    exact of_yields_keep h
  | @antennas handle d ch _ _ _ _ hd hflag h =>
    obtain ⟨h, rfl⟩ := of_yields_keep h
    obtain rfl := hflag.eq_isTx
    have hcall : b'.channelCall handle ch .antennaList =
        b'.readList (.antennas d ch.direction.isTx ch.index) := by
      simp only [channelCall, device, hd, pure_bind]
      rfl
    exact ⟨hcall ▸ h, rfl⟩

/-- Both lists are read as the library replies, to the end, and the driver stays as it is.  Names
that the library stored in a list with room for all of them are what the client gets. -/
theorem nameList_read (b : Binding) :
    (∀ (r : Request) (ms : List (Event Machine)), ¬ (b.perform r).Exhausts ms) ∧
      ∀ (l : NameList) (ms : List (Event Machine)) (x : Except Error (List String)) (b' : Binding),
        b.Reads l ms x b' →
        l.Listed ms x ∧ b' = b ∧
          ∀ (room : Nat) (fill : Reply (List (List UInt8))) (written : List String),
            l.ask (some room) fill ∈ ms → fill.code = written.length → written.length ≤ room →
            (∀ name ∈ written, l.Fits name) →
            (∀ i (hi : i < written.length), NameList.Written written[i] (fill.out.getD i [])) →
            x = .ok written := by
  refine ⟨fun r ms => ends_operation b (.inl r) ms, fun l ms x b' h => ?_⟩
  obtain ⟨hread, rfl⟩ := yields_of_reads h
  have hlisted := listed_readList hread
  exact ⟨hlisted, rfl, fun room fill written hfill hcode hroom hfit hentries =>
    ok_of_listed hlisted hfill hcode hroom hfit hentries⟩

/-- A driver with one open device. -/
def oneDevice : Binding := { fresh with devices := ⟨#[some ⟨7⟩]⟩ }

/-- Two antennas are counted and listed.  The first name leaves no room for a zero byte, and behind
the second one there are bytes of an older name. -/
def twoAntennas : List (Event Machine) :=
  [(NameList.antennas ⟨7⟩ true 1).ask none ⟨2, [], []⟩,
    (NameList.antennas ⟨7⟩ true 1).ask (some 2)
      ⟨2, [Utf8.encode "LNA-WIDEBAND-016", Utf8.encode "größe" ++ 0 :: Utf8.encode "band"], []⟩]

theorem twoAntennas_read : oneDevice.Reads (.antennas ⟨7⟩ true 1) twoAntennas
    (.ok ["LNA-WIDEBAND-016", "größe"]) oneDevice := by
  have hserved : ∃ x, (oneDevice.perform (.channel ⟨0⟩ ⟨.tx, 1⟩ .antennaList)).Yields twoAntennas
      (x, oneDevice) := ⟨_, .ask _ (.ask _ (.done _))⟩
  obtain ⟨x, hserved⟩ := hserved
  have hopen : oneDevice.devices.get? (⟨0⟩ : DeviceHandle).index = some ⟨7⟩ := rfl
  have hrun : oneDevice.Reads (.antennas ⟨7⟩ true 1) twoAntennas x oneDevice :=
    .antennas hopen .tx hserved
  have hfits : ∀ name ∈ ["LNA-WIDEBAND-016", "größe"],
      (NameList.antennas ⟨7⟩ true 1).Fits name := by
    simp only [NameList.Fits, NameList.width]
    decide +kernel
  obtain ⟨-, -, hnames⟩ := (nameList_read oneDevice).2 _ _ _ _ hrun
  have hx := hnames 2 _ ["LNA-WIDEBAND-016", "größe"] (List.mem_cons_of_mem _ List.mem_cons_self)
    rfl (by decide) hfits fun i hi => by
      match i, hi with
      | 0, _ => exact .bare
      | 1, _ => exact .terminated _
  exact hx ▸ hrun

end Binding
end Native
end RadioBench
