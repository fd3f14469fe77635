import Skatebot.Library.FlaggedSlot
import Skatebot.Lidar.ScanMessage
import Skatebot.Lidar.LiPkg

/-!
# Frames between the threads

The thread that reads the serial line sets the frames, the main thread gets
them.  Each of them takes a mutex for the frame and another for the flag, one
after the other, so that the other thread may come between.
-/

namespace Skatebot

open Library FlaggedSlot

namespace LiPkg

variable {R : Type}

/-- The frame and the flag that the threads share. -/
def slot (lidar : LiPkg R) (copied : List (Nat × List (PointData R))) :
    FlaggedSlot (List (PointData R)) where
  value := lidar.laserScanData
  ready := lidar.isFrameReady
  stored := lidar.frames
  copied := copied

/-- `LiPkg::SetLaserScanData` and `LiPkg::SetFrameReady`, access by access. -/
theorem run_setLaserScanData
    (lidar : LiPkg R)
    (src : List (PointData R))
    (copied : List (Nat × List (PointData R))) :
    (put src).run exec (lidar.slot copied) =
      some (⟨⟩, (lidar.setLaserScanData src).slot copied) := rfl

/-- `LiPkg::GetLaserScanData`, access by access. -/
theorem run_getLaserScanData
    (lidar : LiPkg R)
    (copied : List (Nat × List (PointData R))) :
    ∃ more, Program.run exec take (lidar.slot copied) =
      some (lidar.getLaserScanData.1,
        lidar.getLaserScanData.2.slot (more ++ copied)) := by
  cases ready : lidar.isFrameReady with
  | false =>
      refine ⟨[], ?_⟩
      simp [FlaggedSlot.take, exec, slot, getLaserScanData, ready]
  | true =>
      refine ⟨[(lidar.frames.length - 1, lidar.laserScanData)], ?_⟩
      simp [FlaggedSlot.take, exec, slot, getLaserScanData, ready]

/-- One thread sets some frames, the other asks for a frame some times. -/
def threads (lidar : LiPkg R) (frames : List (List (PointData R)))
    (count : Nat) : SlotPool (List (PointData R)) where
  shared := lidar.slot []
  code
    | .writer => puts frames
    | .reader => takes count

/-- However the threads are scheduled, the main thread gets whole frames, in
the order in which they were set, none of them more than three times; and once
neither thread is at work and the flag is down, it has got the last one. -/
theorem frames_handed_over
    (pkg : LiDARFrame)
    (frames : List (List (PointData R)))
    (count : Nat)
    (schedule : List SlotThread)
    {final : SlotPool (List (PointData R))}
    (ran : ((make pkg).threads frames count).steps (fun _ => exec) schedule =
      some final) :
    (∀ taken ∈ final.shared.copied, frames[taken.1]? = some taken.2) ∧
      (final.shared.copied.map Prod.fst).Pairwise (· ≥ ·) ∧
      (∀ place, (final.shared.copied.map Prod.fst).count place ≤ 3) ∧
      (final.Idle .writer → final.Idle .reader →
        final.shared.ready = false →
        final.shared.copied.head?.map Prod.snd = frames.getLast?) := by
  have begun : (make pkg).threads frames count =
      FlaggedSlot.start [] frames count := rfl
  have safe := (safe_start [] frames count).steps schedule (begun ▸ ran)
  obtain ⟨_, _, _, _, _, _, handed⟩ := id safe
  exact ⟨safe.copies, handed.inOrder, handed.few, safe.settled⟩

/-- Three frames, the last of which comes while the main thread stands between
the flag and the frame. -/
def crowded : List SlotThread :=
  [.writer, .writer, .reader, .reader, .writer, .writer, .writer, .reader,
    .reader, .reader, .reader, .writer, .reader, .reader, .reader]

/-- A frame can be got three times. -/
theorem frames_handed_over_crowded :
    ∃ final : SlotPool (List (PointData ℚ)),
      ((make Analysis.metreAround).threads
        [[], [], [ScanPublisher.readingAt 350]] 3).steps (fun _ => exec)
          crowded = some final ∧
        final.shared.copied.map Prod.fst = [2, 2, 2] ∧
        ∀ taken ∈ final.shared.copied,
          [[], [], [ScanPublisher.readingAt 350]][taken.1]? = some taken.2 :=
  ⟨_, rfl, rfl, (frames_handed_over _ _ 3 crowded rfl).1⟩

end LiPkg
end Skatebot
