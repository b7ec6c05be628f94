/-
Which calls on streams are legal.

A stream is there only while its device is open, and a stream that was started must be
stopped before it is destroyed.  The driver leaves both to its client while it serves
requests.  When it is released it stops what runs, and it passes over a stream whose handle
stands for no device, but not over one whose handle stands for another device by then.
-/
import RadioBench.Proofs.Native.Ties

namespace RadioBench
namespace Native

open Prog

variable {C : StreamBlock → Prop} {ms ts ts' rest : List (Event Machine)} {ev : Event Machine}
  {k : Nat} {d : DeviceRef} {block : StreamBlock}

/-- The stream is destroyed. -/
def Destroys (block : StreamBlock) (ev : Event Machine) : Prop :=
  ∃ d, ev.op = .inl (.destroyStream d block)

/-- A call on a stream comes before its device is closed, and one that destroys the stream
comes while it does not play. -/
def Lawful (before : List (Event Machine)) (ev : Event Machine) : Prop :=
  ∀ block, block? ev = some block →
    ¬ DeviceClosed block.serial before ∧ (Destroys block ev → ¬ Playing block.serial before)

/-- Of the calls on streams after `ms` those are legal whose block meets the condition. -/
def LawfulWhen (C : StreamBlock → Prop) (ms ts : List (Event Machine)) : Prop :=
  ∀ before ev after block, ts = before ++ ev :: after → block? ev = some block →
    (Lawful (ms ++ before) ev ↔ C block)

theorem lawful_iff (hblock : block? ev = some block) :
    Lawful ms ev ↔
      ¬ DeviceClosed block.serial ms ∧ (Destroys block ev → ¬ Playing block.serial ms) := by
  constructor
  · intro h
    exact h block hblock
  · intro h block' hblock'
    obtain rfl := Option.some.inj (hblock.symm.trans hblock')
    exact h

namespace LawfulWhen

theorem of_none (h : ∀ ev ∈ ts, block? ev = none) : LawfulWhen C ms ts := by
  rintro before ev after block rfl hblock
  have hnone : block? ev = none := h ev (List.mem_append_right _ List.mem_cons_self)
  rw [hnone] at hblock
  cases hblock

theorem call (hblock : block? ev = some block) (hlawful : Lawful ms ev ↔ C block)
    (hrest : ∀ x ∈ rest, Aside x) : LawfulWhen C ms (ev :: rest) := by
  intro before x after block' heq hblock'
  cases before with
  | nil =>
    obtain ⟨rfl, -⟩ := List.cons.inj heq
    obtain rfl := Option.some.inj (hblock.symm.trans hblock')
    rw [List.append_nil]
    exact hlawful
  | cons y before =>
    obtain ⟨rfl, rfl⟩ := List.cons.inj heq
    rw [(hrest x (List.mem_append_right _ List.mem_cons_self)).plain.1] at hblock'
    cases hblock'

theorem append (h : LawfulWhen C ms ts) (h' : LawfulWhen C (ms ++ ts) ts') :
    LawfulWhen C ms (ts ++ ts') := by
  intro before ev after block heq hblock
  rcases List.append_eq_append_iff.mp heq with ⟨mid, rfl, hmid⟩ | ⟨mid, rfl, hmid⟩
  · rw [← List.append_assoc]
    exact h' mid ev after block hmid hblock
  · cases mid with
    | nil =>
      have hlater := h' [] ev after block hmid.symm hblock
      rwa [List.append_nil, List.append_nil] at hlater
    | cons x mid =>
      obtain ⟨rfl, -⟩ := List.cons.inj hmid
      exact h before ev mid block rfl hblock

end LawfulWhen

/-! ## Giving a stream back -/

/-- To destroy streams closes no device. -/
theorem deviceClosed_append_iff (h : ∀ t ∈ transfers ts, ∃ d j, t = .destroyed d j) :
    DeviceClosed k (ms ++ ts) ↔ DeviceClosed k ms := by
  constructor
  · rintro ⟨d, hsetUp, hclosed⟩
    rw [transfers_append, List.mem_append] at hsetUp hclosed
    refine ⟨d, hsetUp.resolve_right fun hmem => ?_, hclosed.resolve_right fun hmem => ?_⟩
    · obtain ⟨e, j, heq⟩ := h _ hmem
      cases heq
    · obtain ⟨e, j, heq⟩ := h _ hmem
      cases heq
  · intro hclosed
    exact hclosed.append ts

namespace Parting

variable {slot : StreamSlot}

theorem transfers_eq (h : Parting d slot ts) :
    transfers ts = [.destroyed d slot.block.serial] := by
  cases h with
  | still a hoff hrest => simp [transfer?, transfers_aside hrest]
  | running a a' hon hrest hrest' =>
    simp [transfer?, transfers_aside hrest, transfers_aside hrest']

/-- If the stream can be stopped, it is destroyed as it should be.  Only its device may have
been closed. -/
theorem lawfulWhen (h : Parting d slot ts)
    (hrunning : slot.running = true ↔ Playing slot.block.serial ms)
    (hstops : ∀ block a, (⟨.inl (.stream block .stop), a⟩ : Event Machine) ∈ ts → a.code = 0)
    (hC : ¬ DeviceClosed slot.block.serial ms ↔ C slot.block) : LawfulWhen C ms ts := by
  cases h with
  | still a hoff hrest =>
    have hquiet : ¬ Playing slot.block.serial ms := by
      rw [← hrunning, hoff]
      exact Bool.false_ne_true
    refine .call rfl ?_ hrest
    rw [lawful_iff rfl, ← hC]
    exact and_iff_left fun _ => hquiet
  | @running a a' rest rest' hon hrest hrest' =>
    have hcode : a.code = 0 := hstops slot.block a (by simp)
    have hstop : ∀ t ∈ transfers (⟨.inl (.stream slot.block .stop), a⟩ :: rest),
        ∃ d j, t = .destroyed d j := by
      simp [transfer?, transfers_aside hrest]
    have hstopped : ¬ Playing slot.block.serial
        (ms ++ ⟨.inl (.stream slot.block .stop), a⟩ :: rest) := by
      rw [Playing, switches_append, switches_call hrest]
      simp [switched?, hcode]
    refine .append (.call rfl ?_ hrest) (.call rfl ?_ hrest')
    · rw [lawful_iff rfl, ← hC]
      refine and_iff_left ?_
      rintro ⟨e, hop⟩
      cases hop
    · rw [lawful_iff rfl, ← hC, deviceClosed_append_iff hstop]
      exact and_iff_left fun _ => hstopped

end Parting

namespace Binding

variable {b : Binding} {session : List Service}

theorem lawfulWhen_releaseAll {l : List (Nat × StreamSlot)} {u : PUnit}
    (hl : l.Pairwise fun e e' => e.2.block.serial ≠ e'.2.block.serial)
    (hrunning : ∀ e ∈ l, (e.2.running = true ↔ Playing e.2.block.serial ms))
    (hC : ∀ e ∈ l, (¬ DeviceClosed e.2.block.serial ms ↔ C e.2.block))
    (hstops : ∀ block a, (⟨.inl (.stream block .stop), a⟩ : Event Machine) ∈ ts → a.code = 0)
    (hts : (l.forM fun entry => b.releaseStream entry.1 entry.2).Yields ts u) :
    LawfulWhen C ms ts := by
  induction l generalizing ms ts with
  | nil =>
    obtain ⟨rfl, -⟩ := yields_done_iff.mp hts
    exact .of_none (by simp)
  | cons entry l ih =>
    obtain ⟨i, slot⟩ := entry
    obtain ⟨hne, hl⟩ := List.pairwise_cons.mp hl
    obtain ⟨hrun, hrunning⟩ := List.forall_mem_cons.mp hrunning
    obtain ⟨hslot, hC⟩ := List.forall_mem_cons.mp hC
    obtain ⟨v, ts₁, ts₂, rfl, h₁, h₂⟩ := yields_bind_iff.mp hts
    have hfirst := fun block a hmem => hstops block a (List.mem_append_left _ hmem)
    have hlater := fun block a hmem => hstops block a (List.mem_append_right _ hmem)
    cases hd : b.devices.get? slot.device.index with
    | none =>
      have hnone : (b.releaseStream i slot).Yields ts₁ v := h₁
      rw [releaseStream, hd] at hnone
      obtain ⟨rfl, -⟩ := yields_done_iff.mp hnone
      exact ih hl hrunning hC hlater h₂
    | some d =>
      have hparting := parting_of_yields hd h₁
      have hdestroyed : ∀ t ∈ transfers ts₁, ∃ d j, t = .destroyed d j := by
        rw [hparting.transfers_eq]
        simp
      refine (hparting.lawfulWhen hrun hfirst hslot).append (ih hl ?_ ?_ hlater h₂)
      · -- the calls for this stream start and stop no other
        intro e he
        have hother := hparting.confined.uses_eq_nil (Ne.symm (hne e he))
        rw [playing_append (switches_eq_nil hother)]
        exact hrunning e he
      · intro e he
        rw [deviceClosed_append_iff hdestroyed]
        exact hC e he

/-- No two slots have the same block. -/
theorem Tends.pairwise_serial (h : b.Tends ms) :
    b.streams.toList.Pairwise fun e e' => e.2.block.serial ≠ e'.2.block.serial := by
  refine (List.pairwise_map.mp h.distinct.nodup).imp_of_mem fun {e e'} he he' hne hserial => ?_
  have hslot : b.streams.Holds e.2 := ⟨e.1, b.streams.mem_toList_iff.mp he⟩
  have hslot' : b.streams.Holds e'.2 := ⟨e'.1, b.streams.mem_toList_iff.mp he'⟩
  exact hne (h.tended.apart e.2 e'.2 hslot hslot' hserial)

/-! ## The calls of a session -/

/-- Which calls on streams are legal, at a client's requests and in the end. -/
structure LegalCalls (session : List Service) (b : Binding) : Prop where
  /-- The handle of the device was not given back under the stream, and the stream does not
  play if it is to be destroyed. -/
  served : ∀ past s, past ++ [s] <+: session →
    LawfulWhen (fun block => ¬ Orphaned past block.serial ∧
      ((∃ handle n, s.request = .destroyStream handle n) →
        ¬ Playing block.serial (history past))) (history past) s.events
  /-- If all can be stopped, the handle of the device was not given back under the stream. -/
  released : ∀ rel, b.release.Yields rel () →
    (∀ block a, (⟨.inl (.stream block .stop), a⟩ : Event Machine) ∈ rel → a.code = 0) →
      LawfulWhen (fun block => ¬ Orphaned session block.serial) (history session) rel

theorem lawfulWhen_served {s : Service} {c : Binding} (h : Path Service.Serves fresh session b)
    (hdistinct : DistinctOpens (history session)) (hs : s.Serves b c) :
    LawfulWhen (fun block => ¬ Orphaned session block.serial ∧
      ((∃ handle n, s.request = .destroyStream handle n) →
        ¬ Playing block.serial (history session))) (history session) s.events := by
  by_cases hnone : ∀ ev ∈ s.events, block? ev = none
  · exact .of_none hnone
  obtain ⟨ev, hev, hnamed⟩ : ∃ ev ∈ s.events, block? ev ≠ none := by
    simpa only [not_forall, exists_prop] using hnone
  obtain ⟨block, hblock⟩ := Option.ne_none_iff_exists'.mp hnamed
  obtain ⟨rest, hevents, hrest, hcall⟩ := (effect_of_serves hs).of_block hev hblock
  have hclosed : DeviceClosed block.serial (history session) ↔ Orphaned session block.serial := by
    rcases hcall with ⟨hserial, -⟩ | ⟨i, slot, hslot, rfl, -⟩
    · -- a new block was not named before, so no stream of that name had a device
      have hunused := (tends_session h).unused _ (Nat.le_of_eq hserial.symm)
      have hopen : ¬ DeviceClosed block.serial (history session) := by
        rintro ⟨d, hsetUp, -⟩
        have hmem := setUp_mem_uses hsetUp
        rw [hunused] at hmem
        cases hmem
      exact iff_of_false hopen fun horphaned => hopen (deviceClosed_of_orphaned h horphaned)
    · exact deviceClosed_iff_orphaned h hdistinct hslot
  have hdestroys := destroys_iff_request hs hev hblock
  rw [hevents]
  refine .call hblock ?_ hrest
  rw [lawful_iff hblock, hclosed, Destroys, hdestroys]

theorem lawfulWhen_release (h : Path Service.Serves fresh session b)
    (hdistinct : DistinctOpens (history session)) (hts : b.release.Yields ts ())
    (hstops : ∀ block a, (⟨.inl (.stream block .stop), a⟩ : Event Machine) ∈ ts → a.code = 0) :
    LawfulWhen (fun block => ¬ Orphaned session block.serial) (history session) ts := by
  obtain ⟨v, ts₁, ts₂, rfl, h₁, h₂⟩ := yields_bind_iff.mp hts
  have htends := tends_session h
  have hstreams := lawfulWhen_releaseAll (C := fun block => ¬ Orphaned session block.serial)
    htends.pairwise_serial
    (fun e he => htends.tended.running e.2 ⟨e.1, b.streams.mem_toList_iff.mp he⟩)
    (fun e he =>
      not_congr (deviceClosed_iff_orphaned h hdistinct (b.streams.mem_toList_iff.mp he)))
    (fun block a hmem => hstops block a (List.mem_append_left _ hmem)) h₁
  exact hstreams.append (.of_none ((only_closeAll b).events _ _ h₂))

/-- A call on a stream is legal just when the client kept the stream's device and, if the stream
is to be destroyed, stopped it before. -/
theorem session_legalCalls (h : Path Service.Serves fresh session b)
    (hdistinct : DistinctOpens (history session)) : LegalCalls session b where
  served past s hpast := by
    obtain ⟨c, c', hpath, hs⟩ := h.of_prefix hpast
    exact lawfulWhen_served hpath (hdistinct.of_prefix ((List.prefix_append _ _).trans hpast)) hs
  released rel hrel hstops := lawfulWhen_release h hdistinct hrel hstops

/-- Nothing fails here, and yet a stream is destroyed while it plays, another started after its
device was closed, and this one stopped and destroyed in the end. -/
theorem stray_session_legalCalls :
    ∃ b, Path Service.Serves fresh straySession b ∧ DistinctOpens (history straySession) ∧
      LegalCalls straySession b ∧ b.release.Yields strayRelease () ∧
      ¬ Lawful (history (straySession.take 6))
        ⟨.inl (.destroyStream ⟨8⟩ ⟨1, 4⟩), (⟨0, (), []⟩ : Reply Unit)⟩ ∧
      ¬ Lawful (history (straySession.take 8))
        ⟨.inl (.stream ⟨0, 3⟩ .start), (⟨0, (), []⟩ : Reply Unit)⟩ ∧
      ∀ ev ∈ strayRelease.take 2, ¬ Lawful (history straySession) ev := by
  have hclosed : ∀ rest, DeviceClosed 0 (history (straySession.take 8) ++ rest) := by
    intro rest
    have hnow : DeviceClosed 0 (history (straySession.take 8)) := by
      have htransfers : transfers (history (straySession.take 8)) =
          [.opened ⟨7⟩, .opened ⟨8⟩, .setUp ⟨7⟩ 0, .setUp ⟨7⟩ 1, .destroyed ⟨8⟩ 1, .closed ⟨7⟩] := rfl
      exact ⟨⟨7⟩, by simp [htransfers], by simp [htransfers]⟩
    exact hnow.append rest
  have hplaying : Playing 1 (history (straySession.take 6)) := rfl
  refine ⟨_, path_straySession, distinctOpens_straySession,
    session_legalCalls path_straySession distinctOpens_straySession,
    .ask _ (.ask _ (.ask _ (.ask _ (.done _)))), ?_, ?_, ?_⟩
  · intro h
    exact (h ⟨1, 4⟩ rfl).2 ⟨⟨8⟩, rfl⟩ hplaying
  · intro h
    exact (h ⟨0, 3⟩ rfl).1 (by simpa using hclosed [])
  · intro ev hev h
    have hblock : block? ev = some ⟨0, 3⟩ := by
      rcases List.mem_cons.mp hev with rfl | hev
      · rfl
      · obtain rfl := List.mem_singleton.mp hev
        rfl
    exact (h ⟨0, 3⟩ hblock).1 (hclosed (history (straySession.drop 8)))

end Binding
end Native
end RadioBench
