/-
Parts of a smoke test.

A part follows its script of requests up to its first fatal event.  What comes after
that event only gives back what is held, which depends on the stage alone.  `append`
and `extend` put parts together, so that the test is taken one operation at a time.
-/
import RadioBench.Proofs.SmokeTest.Stage

namespace RadioBench
namespace SmokeTest

/-- What a part gives back when it fails. -/
structure Duty where
  giveBack : Stage → List Request
  /-- The stage after that. -/
  leaves : Stage → Stage
  /-- What is known of the stage at which the part fails. -/
  mayFailAt : Stage → Prop

namespace Duty

/-- A part that has a device gives its stream back and keeps the device. -/
def stream (h : DeviceHandle) : Duty where
  giveBack := Stage.streamCleanup
  leaves := Stage.withoutStream
  mayFailAt st := st.deviceCleanup = [.closeDevice h]

/-- The rest of the test gives everything back. -/
def all : Duty where
  giveBack := Stage.cleanup
  leaves := Stage.released
  mayFailAt _ := True

end Duty

/-- The script is followed to its end, or up to the first fatal event and then what is
held is given back. -/
def Part {α : Type} (d : Duty) (script : List Request) (st goal : Stage)
    (es : List (Event Host)) : Except Error α → Prop
  | .ok _ => Clean es ∧ requests es = script ∧ Path Stage.Step st es goal
  | .error e => ∃ main after mid, es = main ++ after ∧ StopsAt main e ∧
      requests main <+: script ∧ Path Stage.Step st main mid ∧ d.mayFailAt mid ∧
      requests after = d.giveBack mid ∧ Path Stage.Step mid after (d.leaves mid)

namespace Part

variable {α β : Type} {d : Duty} {rs rs' : List Request} {st mid goal : Stage}
  {es es' : List (Event Host)} {a : α} {e : Error}

theorem append {r : Except Error β} (h : Part d rs st mid es (.ok a))
    (h' : Part d rs' mid goal es' r) : Part d (rs ++ rs') st goal (es ++ es') r := by
  obtain ⟨hclean, hrs, hpath⟩ := h
  cases r with
  | ok b =>
    obtain ⟨hclean', hrs', hpath'⟩ := h'
    exact ⟨clean_append.mpr ⟨hclean, hclean'⟩, by rw [requests_append, hrs, hrs'],
      hpath.append hpath'⟩
  | error e =>
    obtain ⟨main, after, stuck, rfl, hstop, hpre, hmain, hmay, hafter, hend⟩ := h'
    refine ⟨es ++ main, after, stuck, by simp, StopsAt.append hclean hstop, ?_, hpath.append hmain,
      hmay, hafter, hend⟩
    rw [requests_append, hrs]
    exact List.prefix_append_right_inj rs |>.mpr hpre

theorem extend (h : Part d rs st mid es (.error e : Except Error α)) (rs' : List Request)
    (goal : Stage) : Part d (rs ++ rs') st goal es (.error e : Except Error β) := by
  obtain ⟨main, after, stuck, rfl, hstop, hpre, hmain, hmay, hafter, hend⟩ := h
  exact ⟨main, after, stuck, rfl, hstop, hpre.trans (List.prefix_append rs rs'), hmain, hmay,
    hafter, hend⟩

theorem with_value (h : Part d rs st goal es (.ok a)) (b : β) :
    Part d rs st goal es (.ok b) := h

theorem with_error (h : Part d rs st goal es (.error e : Except Error α)) :
    Part d rs st goal es (.error e : Except Error β) := h

theorem of_cut {r : Except Error α} (h : Cut rs es r) (hstill : ∀ q ∈ rs, st.Still q)
    (hnone : d.giveBack st = []) (hleaves : d.leaves st = st) (hmay : d.mayFailAt st) :
    Part d rs st st es r := by
  have hpath := Stage.path_of_cut h hstill
  cases r with
  | ok a => exact ⟨h.1, h.2, hpath⟩
  | error e =>
    exact ⟨es, [], st, by simp, h.1, h.2, hpath, hmay, hnone.symm, by rw [hleaves, Path.nil_iff]⟩

theorem of_drop {s : Stream} {u : Unit} (hstop : StopsAt es e) (hpre : requests es <+: rs)
    (hpath : Path Stage.Step st es mid) (hdrop : s.drop.Yields es' u) (hs : mid.Holds s) :
    Part (.stream s.device) rs st goal (es ++ es') (.error e : Except Error α) := by
  obtain ⟨hreq, hend⟩ := Stage.path_drop hdrop hs
  exact ⟨es, es', mid, rfl, hstop, hpre, hpath, hs.deviceCleanup, hreq,
    by rwa [← hs.withoutStream] at hend⟩

end Part
end SmokeTest
end RadioBench
