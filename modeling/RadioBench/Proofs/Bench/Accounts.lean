/-
Guards and their ledger.

Every guard that a bench keeps has a number of its own, and the ledger says of exactly
these numbers that their guards live.  Numbers from some bound on were never given out.
-/
import Mathlib.Data.List.Nodup
import RadioBench.Bench.Guards
import RadioBench.Proofs.Guard.Posting

namespace RadioBench
namespace Bench

/-- The entries of a bench with their numbers, and a ledger that agrees with them. -/
structure Tracks (L : Ledger) (ds : List (Nat × String × Device))
    (ts : List (Nat × String × NamedStream)) : Prop where
  devicesOnce : (ds.map Prod.fst).Nodup
  streamsOnce : (ts.map Prod.fst).Nodup
  device : ∀ x ∈ ds, L.device x.1 = .live x.2.2.handle
  /-- A stream's device is there, under the name that the stream keeps of it. -/
  stream : ∀ y ∈ ts, ∃ x ∈ ds, x.2.1 = y.2.2.device ∧ x.2.2.handle = y.2.2.stream.device ∧
    L.stream y.1 =
      .live ⟨x.1, y.2.2.stream.device, y.2.2.stream.handle, y.2.2.stream.running⟩
  deviceMem : ∀ d h, L.device d = .live h → d ∈ ds.map Prod.fst
  streamMem : ∀ t s, L.stream t = .live s → t ∈ ts.map Prod.fst
  fresh : ∃ bound, ∀ k, bound ≤ k → L.device k = .unborn ∧ L.stream k = .unborn

namespace Tracks

variable {L : Ledger} {ds ds₁ ds₂ : List (Nat × String × Device)}
  {ts ts₁ ts₂ : List (Nat × String × NamedStream)} {name : String}

theorem empty : Tracks .empty [] [] where
  devicesOnce := .nil
  streamsOnce := .nil
  device := by simp
  stream := by simp
  deviceMem _ _ h := nomatch h
  streamMem _ _ h := nomatch h
  fresh := ⟨0, fun _ _ => ⟨rfl, rfl⟩⟩

theorem ne_of_mem {α : Type} {xs ys : List (Nat × α)} {x y : Nat × α}
    (h : ((xs ++ x :: ys).map Prod.fst).Nodup) (hy : y ∈ xs ++ ys) : y.1 ≠ x.1 := by
  rw [List.map_append, List.map_cons, List.nodup_middle, List.nodup_cons, ← List.map_append] at h
  rintro heq
  exact h.1 (heq ▸ List.mem_map_of_mem hy)

theorem nodup_erase {α : Type} {xs ys : List (Nat × α)} {x : Nat × α}
    (h : ((xs ++ x :: ys).map Prod.fst).Nodup) : ((xs ++ ys).map Prod.fst).Nodup := by
  rw [List.map_append, List.map_cons, List.nodup_middle, List.nodup_cons, ← List.map_append] at h
  exact h.2

theorem mem_erase {α : Type} {xs ys : List (Nat × α)} {x : Nat × α} {k : Nat}
    (h : k ∈ (xs ++ x :: ys).map Prod.fst) (hk : k ≠ x.1) : k ∈ (xs ++ ys).map Prod.fst := by
  simp only [List.map_append, List.map_cons, List.mem_append, List.mem_cons] at h ⊢
  rcases h with h | h | h
  · exact .inl h
  · exact absurd h hk
  · exact .inr h

theorem mem_middle {α : Type} {xs ys : List α} {x y : α} :
    y ∈ xs ++ x :: ys ↔ y = x ∨ y ∈ xs ++ ys := by
  simp only [List.mem_append, List.mem_cons]
  exact or_left_comm

theorem insertDevice (h : Tracks L ds ts) (name : String) (d : Device) :
    ∃ i, L.device i = .unborn ∧
      Tracks (L.setDevice i (.live d.handle)) ((i, name, d) :: ds) ts := by
  obtain ⟨b, hb⟩ := h.fresh
  have hb' := (hb b (Nat.le_refl b)).1
  have hnew : ∀ x ∈ ds, x.1 ≠ b := by
    rintro x hx rfl
    rw [h.device x hx] at hb'
    cases hb'
  refine ⟨b, hb', ?_, h.streamsOnce, ?_, ?_, ?_, h.streamMem, ?_⟩
  · refine List.nodup_cons.mpr ⟨fun hmem => ?_, h.devicesOnce⟩
    obtain ⟨x, hx, hxb⟩ := List.mem_map.mp hmem
    exact hnew x hx hxb
  · refine List.forall_mem_cons.mpr ⟨by simp, fun x hx => ?_⟩
    simp [hnew x hx, h.device x hx]
  · intro y hy
    obtain ⟨x, hx, hname, hhandle, hlive⟩ := h.stream y hy
    exact ⟨x, List.mem_cons_of_mem _ hx, hname, hhandle, hlive⟩
  · intro k j hk
    by_cases hkb : k = b
    · simp [hkb]
    · rw [Ledger.setDevice_device, if_neg hkb] at hk
      exact List.mem_cons_of_mem _ (h.deviceMem k j hk)
  · refine ⟨b + 1, fun k hk => ?_⟩
    obtain ⟨hdevice, hstream⟩ := hb k (by omega)
    have hkb : k ≠ b := by omega
    simp [hkb, hdevice, hstream]

theorem eraseDevice {x : Nat × String × Device} (h : Tracks L (ds₁ ++ x :: ds₂) ts)
    (hfree : ∀ y ∈ ts, y.2.2.device ≠ x.2.1) :
    Tracks (L.setDevice x.1 .gone) (ds₁ ++ ds₂) ts := by
  have hne : ∀ y ∈ ds₁ ++ ds₂, y.1 ≠ x.1 := fun y hy => ne_of_mem h.devicesOnce hy
  refine ⟨nodup_erase h.devicesOnce, h.streamsOnce, ?_, ?_, ?_, h.streamMem, ?_⟩
  · intro y hy
    simp [hne y hy, h.device y (mem_middle.mpr (.inr hy))]
  · intro y hy
    obtain ⟨z, hz, hname, hhandle, hlive⟩ := h.stream y hy
    rcases mem_middle.mp hz with rfl | hz
    · exact absurd hname.symm (hfree y hy)
    · exact ⟨z, hz, hname, hhandle, hlive⟩
  · intro k j hk
    by_cases hkx : k = x.1
    · simp [hkx] at hk
    · rw [Ledger.setDevice_device, if_neg hkx] at hk
      exact mem_erase (h.deviceMem k j hk) hkx
  · obtain ⟨b, hb⟩ := h.fresh
    refine ⟨max b (x.1 + 1), fun k hk => ?_⟩
    obtain ⟨hdevice, hstream⟩ := hb k (by omega)
    have hkx : k ≠ x.1 := by omega
    simp [hkx, hdevice, hstream]

theorem insertStream {x : Nat × String × Device} (h : Tracks L ds ts) (hx : x ∈ ds)
    (name : String) :
    ∃ t, L.stream t = .unborn ∧ ∀ s : Stream, s.device = x.2.2.handle →
      Tracks (L.setStream t (.live ⟨x.1, s.device, s.handle, s.running⟩)) ds
        ((t, name, ⟨x.2.1, s⟩) :: ts) := by
  obtain ⟨b, hb⟩ := h.fresh
  have hb' := (hb b (Nat.le_refl b)).2
  have hnew : ∀ y ∈ ts, y.1 ≠ b := by
    rintro y hy rfl
    obtain ⟨x, hx, -, -, hlive⟩ := h.stream y hy
    rw [hlive] at hb'
    cases hb'
  refine ⟨b, hb', fun s hs => ⟨h.devicesOnce, ?_, h.device, ?_, h.deviceMem, ?_, ?_⟩⟩
  · refine List.nodup_cons.mpr ⟨fun hmem => ?_, h.streamsOnce⟩
    obtain ⟨y, hy, hyb⟩ := List.mem_map.mp hmem
    exact hnew y hy hyb
  · refine List.forall_mem_cons.mpr ⟨⟨x, hx, rfl, hs.symm, by simp⟩, fun y hy => ?_⟩
    obtain ⟨z, hz, hname, hhandle, hlive⟩ := h.stream y hy
    exact ⟨z, hz, hname, hhandle, by simp [hnew y hy, hlive]⟩
  · intro k j hk
    by_cases hkb : k = b
    · simp [hkb]
    · rw [Ledger.setStream_stream, if_neg hkb] at hk
      exact List.mem_cons_of_mem _ (h.streamMem k j hk)
  · refine ⟨b + 1, fun k hk => ?_⟩
    obtain ⟨hdevice, hstream⟩ := hb k (by omega)
    have hkb : k ≠ b := by omega
    simp [hkb, hdevice, hstream]

theorem setStream {y : Nat × String × NamedStream} {d : Nat}
    (h : Tracks L ds (ts₁ ++ y :: ts₂)) (s : Stream) (hdevice : s.device = y.2.2.stream.device)
    (hlive : L.stream y.1 = .live ⟨d, s.device, s.handle, y.2.2.stream.running⟩) :
    Tracks (L.setStream y.1 (.live ⟨d, s.device, s.handle, s.running⟩)) ds
      (ts₁ ++ (y.1, y.2.1, ⟨y.2.2.device, s⟩) :: ts₂) := by
  have hne : ∀ z ∈ ts₁ ++ ts₂, z.1 ≠ y.1 := fun z hz => ne_of_mem h.streamsOnce hz
  refine ⟨h.devicesOnce, by simpa using h.streamsOnce, h.device, ?_, h.deviceMem, ?_, ?_⟩
  · intro z hz
    rcases mem_middle.mp hz with rfl | hz
    · obtain ⟨x, hx, hname, hx', hlive'⟩ := h.stream y (mem_middle.mpr (.inl rfl))
      obtain ⟨rfl, -, -⟩ : x.1 = d ∧ y.2.2.stream.device = s.device ∧
          y.2.2.stream.handle = s.handle := by simpa using hlive'.symm.trans hlive
      exact ⟨x, hx, hname, hx'.trans hdevice.symm, by simp⟩
    · obtain ⟨x, hx, hname, hx', hlive'⟩ := h.stream z (mem_middle.mpr (.inr hz))
      exact ⟨x, hx, hname, hx', by simp [hne z hz, hlive']⟩
  · intro k j hk
    by_cases hky : k = y.1
    · simp [hky]
    · rw [Ledger.setStream_stream, if_neg hky] at hk
      simpa using h.streamMem k j hk
  · obtain ⟨b, hb⟩ := h.fresh
    refine ⟨max b (y.1 + 1), fun k hk => ?_⟩
    obtain ⟨hdevice, hstream⟩ := hb k (by omega)
    have hky : k ≠ y.1 := by omega
    simp [hky, hdevice, hstream]

theorem eraseStream {y : Nat × String × NamedStream} (h : Tracks L ds (ts₁ ++ y :: ts₂)) :
    Tracks (L.setStream y.1 .gone) ds (ts₁ ++ ts₂) := by
  have hne : ∀ z ∈ ts₁ ++ ts₂, z.1 ≠ y.1 := fun z hz => ne_of_mem h.streamsOnce hz
  refine ⟨h.devicesOnce, nodup_erase h.streamsOnce, h.device, ?_, h.deviceMem, ?_, ?_⟩
  · intro z hz
    obtain ⟨x, hx, hname, hhandle, hlive⟩ := h.stream z (mem_middle.mpr (.inr hz))
    exact ⟨x, hx, hname, hhandle, by simp [hne z hz, hlive]⟩
  · intro k j hk
    by_cases hky : k = y.1
    · simp [hky] at hk
    · rw [Ledger.setStream_stream, if_neg hky] at hk
      exact mem_erase (h.streamMem k j hk) hky
  · obtain ⟨b, hb⟩ := h.fresh
    refine ⟨max b (y.1 + 1), fun k hk => ?_⟩
    obtain ⟨hdevice, hstream⟩ := hb k (by omega)
    have hky : k ≠ y.1 := by omega
    simp [hky, hdevice, hstream]

end Tracks
end Bench
end RadioBench
