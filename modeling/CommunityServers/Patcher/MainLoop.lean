import CommunityServers.Patcher.Install

/-!
Contract: the loop of the patcher that runs its actions.

Owns:
- `main` and `offer_reboot`, turn by turn, for any keys and any outcomes of the
  calls that the actions make;
- that a run leaves in the patch file what its actions leave there;
- exactly when the file that a reboot is offered for is the patch of the action
  that was just run.

Once `aptMainLoop` has returned false it returns false again, so leaving the offer
that way ends the program.

Does not own: what the screens show, and the reboot itself.
-/

set_option autoImplicit false

namespace CommunityServers.Patcher

open CommunityServers.Foundation

/-! ### Turns -/

/-- Where a turn waits for keys. -/
inductive Screen where
  | menu
  | offer
  | ended
  deriving DecidableEq, Repr

/-- One turn of a loop: whether `aptMainLoop` goes on, the keys pressed, and
what the calls of either action would do. -/
structure Frame where
  running : Bool
  keyA : Bool
  keyY : Bool
  keyB : Bool
  frd : FriendService
  status : UInt32
  card : CardOutcome

/-- The action a turn of the main loop runs: A comes before Y. -/
def Frame.action (screen : Screen) (frame : Frame) : Option Action :=
  if screen = .menu ∧ frame.running then
    if frame.keyA then some (.connect frame.frd frame.status frame.card)
    else if frame.keyY then some (.undo frame.card)
    else none
  else none

/-- The screen after a turn that runs no action. -/
def Screen.next (frame : Frame) : Screen → Screen
  | .menu => if frame.running && !frame.keyB then .menu else .ended
  | .offer =>
      if !frame.running || frame.keyA then .ended
      else if frame.keyB then .menu else .offer
  | .ended => .ended

/-- `offer_reboot` follows an action that succeeds. -/
def mainTurn (state : Screen × Option Bytes) (frame : Frame) : Screen × Option Bytes :=
  match frame.action state.1 with
  | some action =>
      let result := action.perform state.2
      (if result.2 then .offer else .menu, result.1)
  | none => (state.1.next frame, state.2)

/-- The program; the output is the actions it runs. -/
def mainMachine : Machine (Screen × Option Bytes) Frame Action where
  step := mainTurn
  emit state frame := (frame.action state.1).toList

theorem Screen.offer_of_next {screen : Screen} {frame : Frame}
    (offered : screen.next frame = .offer) : screen = .offer := by
  cases screen with
  | offer => rfl
  | ended => exact offered
  | menu =>
      rw [Screen.next] at offered
      split at offered <;> cases offered

/-- What a run of the program leaves in the file is what the actions it ran
leave there. -/
theorem main_file (state : Screen × Option Bytes) (frames : List Frame) :
    (mainMachine.exec state frames).2 =
      installMachine.exec state.2 (mainMachine.log state frames) := by
  induction frames generalizing state with
  | nil => rfl
  | cons frame rest inductionHypothesis =>
      rw [Machine.exec_cons, inductionHypothesis, Machine.log, Machine.exec_append]
      congr 1
      change (mainTurn state frame).2 = installMachine.exec state.2 (frame.action state.1).toList
      unfold mainTurn
      cases frame.action state.1 <;> rfl

/-! ### Writes that are reported complete -/

/-- A write that `fwrite` reports complete is on the card after `fclose`. -/
def CardOutcome.Flushed (card : CardOutcome) (data : Bytes) : Prop :=
  card.opens = true → data.length ≤ card.accepted → data.length ≤ card.flushed

/-- The condition on an action: the write it makes, if it makes one. -/
def Action.Flushed : Action → Prop
  | .connect frd status card =>
      frd.account.isSome = true → status = 200 → card.Flushed friendsPatchIps
  | .undo card => card.Flushed nimbusOrigIps

/-- An action that succeeds installs its patch. -/
def Action.Installs (action : Action) (file : Option Bytes) : Prop :=
  (action.perform file).2 = true → (action.perform file).1 = some action.patch

theorem writePatch_installs_iff (card : CardOutcome) (data : Bytes) (file : Option Bytes) :
    ((writePatch card data file).2 = true → (writePatch card data file).1 = some data) ↔
      card.Flushed data := by
  unfold CardOutcome.Flushed
  by_cases opens : card.opens = true
  · have installed (whole : data.length ≤ card.accepted) :
        data.take (min card.flushed card.accepted) = data ↔ data.length ≤ card.flushed := by
      rw [List.take_eq_self_iff]
      omega
    rw [writePatch_opened opens]
    simp only [opens, decide_eq_true_eq, Option.some.injEq, true_imp_iff]
    exact forall_congr' installed
  · have failed : (writePatch card data file).2 = false := by
      rw [writePatch, if_neg opens]
    simp [failed, opens]

theorem Action.installs_iff (action : Action) (file : Option Bytes) :
    action.Installs file ↔ action.Flushed := by
  cases action with
  | undo card => exact writePatch_installs_iff card nimbusOrigIps file
  | connect frd status card =>
      change ((doConnect frd status card file).2 = true →
          (doConnect frd status card file).1 = some friendsPatchIps) ↔
        (frd.account.isSome = true → status = 200 → card.Flushed friendsPatchIps)
      by_cases registered : frd.account.isSome = true ∧ status = 200
      · rw [doConnect_registered registered.1 registered.2, writePatch_installs_iff]
        exact ⟨fun flushed _ _ => flushed, fun flushed => flushed registered.1 registered.2⟩
      · rw [doConnect_refused registered]
        exact ⟨fun _ read accepted => absurd ⟨read, accepted⟩ registered,
          fun _ succeeded => Bool.noConfusion succeeded⟩

/-! ### Offers -/

/-- Whenever a turn leads to the offer of a reboot, or stays there, the file is the
patch of the last action that was run. -/
def OffersInstalled (start : Option Bytes) (frames : List Frame) : Prop :=
  Everywhere (fun before frame =>
    (mainMachine.exec (.menu, start) (before ++ [frame])).1 = .offer →
      (mainMachine.exec (.menu, start) (before ++ [frame])).2 =
        (mainMachine.log (.menu, start) (before ++ [frame])).getLast?.map Action.patch) frames

/-- One more turn: an offer is kept, or the action that leads to it installs its
patch. -/
theorem offersInstalled_append_singleton {start : Option Bytes} {frames : List Frame}
    (earlier : OffersInstalled start frames) (frame : Frame) :
    OffersInstalled start (frames ++ [frame]) ↔
      ∀ action ∈ mainMachine.emit (mainMachine.exec (.menu, start) frames) frame,
        action.Flushed := by
  have kept : (mainMachine.exec (.menu, start) frames).1 = .offer →
      (mainMachine.exec (.menu, start) frames).2 =
        (mainMachine.log (.menu, start) frames).getLast?.map Action.patch := by
    rcases List.eq_nil_or_concat frames with rfl | ⟨before, last, rfl⟩
    · exact fun offered => Screen.noConfusion offered
    · rw [List.concat_eq_append] at earlier ⊢
      exact ((everywhere_append_singleton before last).mp earlier).2
  unfold OffersInstalled at earlier ⊢
  rw [everywhere_append_singleton, and_iff_right earlier, Machine.exec_append_singleton,
    Machine.log_append_singleton]
  generalize mainMachine.exec (.menu, start) frames = state at kept ⊢
  change ((mainTurn state frame).1 = .offer → (mainTurn state frame).2 =
      (_ ++ (frame.action state.1).toList).getLast?.map Action.patch) ↔
    ∀ action ∈ (frame.action state.1).toList, action.Flushed
  unfold mainTurn
  cases frame.action state.1 with
  | some action =>
      have offers : (if (action.perform state.2).2 = true then Screen.offer else .menu) = .offer ↔
          (action.perform state.2).2 = true := by
        split <;> simp [*]
      simp only [Option.toList_some, List.getLast?_append, List.getLast?_singleton,
        Option.some_or, Option.map_some, offers, List.mem_singleton, forall_eq]
      exact action.installs_iff state.2
  | none =>
      simp only [Option.toList_none, List.append_nil, List.not_mem_nil, false_imp_iff,
        implies_true, iff_true]
      exact fun offered => kept (Screen.offer_of_next offered)

/-- **Offered reboots.** Whatever keys are pressed and whatever the calls return, a
run of the program leaves in the file what its actions leave there, and every reboot
it offers is one into the whole patch of the action just run, exactly when no write
of an action that was reported complete loses bytes as the file is closed. -/
theorem main_offersInstalled_iff (start : Option Bytes) (frames : List Frame) :
    (mainMachine.exec (.menu, start) frames).2 =
        installMachine.exec start (mainMachine.log (.menu, start) frames) ∧
      (OffersInstalled start frames ↔
        ∀ action ∈ mainMachine.log (.menu, start) frames, action.Flushed) := by
  refine ⟨main_file (.menu, start) frames, ?_⟩
  induction frames using List.reverseRecOn with
  | nil => exact ⟨fun _ _ member => absurd member List.not_mem_nil, fun _ => everywhere_nil⟩
  | append_singleton frames frame inductionHypothesis =>
      rw [Machine.log_append_singleton, List.forall_mem_append, ← inductionHypothesis]
      constructor
      · intro installed
        have earlier : OffersInstalled start frames :=
          ((everywhere_append_singleton frames frame).mp installed).1
        exact ⟨earlier, (offersInstalled_append_singleton earlier frame).mp installed⟩
      · rintro ⟨earlier, flushed⟩
        exact (offersInstalled_append_singleton earlier frame).mpr flushed

/-- A card that drops the last byte of Undo's patch as the file is closed: a reboot
is offered all the same. -/
example : (mainMachine.exec (.menu, none)
    [⟨true, false, true, false, ⟨false, none, none⟩, 0, ⟨true, 29, 28⟩⟩]).1 = .offer := by
  decide

end CommunityServers.Patcher
