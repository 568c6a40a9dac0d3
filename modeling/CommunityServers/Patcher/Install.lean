import CommunityServers.Foundation.Machine
import CommunityServers.Foundation.Bytes

/-!
Contract: the patch file the patcher installs and removes.

Owns:
- `write_patch` with every outcome of `fopen`, `fwrite` and `fclose`;
- `do_connect` and `do_undo` over the outcomes of the calls they make;
- the exact condition on a sequence of actions under which every returned
  verdict is true of the file.

Does not own: the registration request itself and the loop that runs the actions.
-/

set_option autoImplicit false

namespace CommunityServers.Patcher

open CommunityServers.Foundation

/-! ### The patches -/

def friendsPatchIps : Bytes :=
  [0x50, 0x41, 0x54, 0x43, 0x48, 0x06, 0x12, 0x9a, 0x00, 0x26, 0x68, 0x74,
    0x74, 0x70, 0x73, 0x3a, 0x2f, 0x2f, 0x66, 0x66, 0x65, 0x2e, 0x66, 0x72,
    0x65, 0x61, 0x6b, 0x79, 0x62, 0x69, 0x67, 0x66, 0x6f, 0x6f, 0x74, 0x2e,
    0x63, 0x6f, 0x6d, 0x2f, 0x61, 0x63, 0x2f, 0x00, 0x00, 0x00, 0x00, 0x00,
    0x45, 0x4f, 0x46]

def nimbusOrigIps : Bytes :=
  [0x50, 0x41, 0x54, 0x43, 0x48, 0x06, 0x12, 0xa7, 0x00, 0x10, 0x70, 0x72,
    0x65, 0x74, 0x65, 0x6e, 0x64, 0x6f, 0x2e, 0x63, 0x63, 0x2f, 0x61, 0x63,
    0x2f, 0x00, 0x45, 0x4f, 0x46]

/-! ### `write_patch` -/

/-- What the calls on the patch file do: whether `fopen` succeeds, how many
bytes `fwrite` takes at most, and how many of those are on the card once
`fclose` has returned. -/
structure CardOutcome where
  opens : Bool
  accepted : Nat
  flushed : Nat
  deriving DecidableEq, Repr

/-- `fopen` with mode `wb` empties the file; the result of `fclose` is ignored.
The file is `none` where it does not exist. -/
def writePatch (card : CardOutcome) (data : Bytes) (file : Option Bytes) :
    Option Bytes × Bool :=
  if card.opens then
    let written := data.take card.accepted
    (some (written.take card.flushed), written.length == data.length)
  else (file, false)

/-! ### The two actions -/

/-- What the friends service answers: `frdInit`, the principal id of
`FRD_GetMyFriendKey` and the text of `FRD_GetMyPassword`. -/
structure FriendService where
  frdInit : Bool
  friendKey : Option UInt32
  password : Option Bytes
  deriving DecidableEq, Repr

/-- The account `do_connect` goes on with. -/
def FriendService.account (frd : FriendService) : Option (UInt32 × Bytes) :=
  if frd.frdInit then
    match frd.friendKey, frd.password with
    | some principalId, some password =>
        if principalId = 0 ∨ password.headD 0 = 0 then none else some (principalId, password)
    | _, _ => none
  else none

/-- `status` is what `register_account` returns for the account read. -/
def doConnect (frd : FriendService) (status : UInt32) (card : CardOutcome)
    (file : Option Bytes) : Option Bytes × Bool :=
  match frd.account with
  | none => (file, false)
  | some _ =>
      if status ≠ 200 then (file, false) else writePatch card friendsPatchIps file

def doUndo (card : CardOutcome) (file : Option Bytes) : Option Bytes × Bool :=
  writePatch card nimbusOrigIps file

inductive Action where
  | connect (frd : FriendService) (status : UInt32) (card : CardOutcome)
  | undo (card : CardOutcome)
  deriving DecidableEq, Repr

def Action.perform : Action → Option Bytes → Option Bytes × Bool
  | .connect frd status card => doConnect frd status card
  | .undo card => doUndo card

/-- The patch an action is there to install. -/
def Action.patch : Action → Bytes
  | .connect .. => friendsPatchIps
  | .undo _ => nimbusOrigIps

/-- The value `register_account` returns in an action that calls it. -/
def Action.registration : Action → Option UInt32
  | .connect frd status _ => frd.account.map fun _ => status
  | .undo _ => none

def registrations (actions : List Action) : List UInt32 :=
  actions.filterMap Action.registration

/-- Actions on the patch file; the output is the verdict of each. -/
def installMachine : Machine (Option Bytes) Action Bool where
  step file action := (action.perform file).1
  emit file action := [(action.perform file).2]

/-! ### One call of `write_patch` -/

/-- The call cannot open the file, or every byte reaches the card, or a short
write leaves exactly the bytes that were there. -/
def CardOutcome.Complete (card : CardOutcome) (data : Bytes) (file : Option Bytes) : Prop :=
  card.opens = false ∨
    (data.length ≤ card.accepted ∧ data.length ≤ card.flushed) ∨
    (card.accepted < data.length ∧
      file = some (data.take (min card.flushed card.accepted)))

instance (card : CardOutcome) (data : Bytes) (file : Option Bytes) :
    Decidable (card.Complete data file) :=
  inferInstanceAs (Decidable (_ ∨ _ ∨ _))

/-- A verdict is true of the file: the patch is installed, or nothing changed. -/
def Truthful (data : Bytes) (file : Option Bytes) (result : Option Bytes × Bool) : Prop :=
  (result.2 = true → result.1 = some data) ∧ (result.2 = false → result.1 = file)

instance (data : Bytes) (file : Option Bytes) (result : Option Bytes × Bool) :
    Decidable (Truthful data file result) :=
  inferInstanceAs (Decidable (_ ∧ _))

theorem truthful_unchanged (data : Bytes) (file : Option Bytes) :
    Truthful data file (file, false) :=
  ⟨fun contradiction => Bool.noConfusion contradiction, fun _ => rfl⟩

theorem writePatch_opened {card : CardOutcome} (opens : card.opens = true) (data : Bytes)
    (file : Option Bytes) :
    writePatch card data file =
      (some (data.take (min card.flushed card.accepted)),
        decide (data.length ≤ card.accepted)) := by
  unfold writePatch
  rw [if_pos opens]
  dsimp only
  rw [List.take_take, List.length_take]
  congr 1
  rw [Bool.eq_iff_iff, beq_iff_eq, decide_eq_true_iff]
  omega

theorem writePatch_truthful_iff (card : CardOutcome) (data : Bytes) (file : Option Bytes) :
    Truthful data file (writePatch card data file) ↔ card.Complete data file := by
  unfold CardOutcome.Complete
  by_cases opens : card.opens = true
  · have notClosed : ¬ card.opens = false := by rw [opens]; exact Bool.noConfusion
    rw [writePatch_opened opens, or_iff_right notClosed]
    unfold Truthful
    by_cases whole : data.length ≤ card.accepted
    · have installed : data.take (min card.flushed card.accepted) = data ↔
          data.length ≤ card.flushed := by
        rw [List.take_eq_self_iff]
        omega
      have notShort : ¬ card.accepted < data.length := by omega
      simp [whole, notShort, installed]
    · have short : card.accepted < data.length := by omega
      simp [whole, short, eq_comm]
  · rw [Bool.not_eq_true] at opens
    unfold writePatch
    rw [if_neg (by rw [opens]; exact Bool.noConfusion)]
    exact ⟨fun _ => Or.inl opens, fun _ => truthful_unchanged data file⟩

/-! ### One action -/

/-- The condition on an action: the `write_patch` call it makes, if it makes
one, is complete. -/
def Action.Complete (file : Option Bytes) : Action → Prop
  | .connect frd status card =>
      frd.account.isSome = true → status = 200 → card.Complete friendsPatchIps file
  | .undo card => card.Complete nimbusOrigIps file

instance (file : Option Bytes) : (action : Action) → Decidable (action.Complete file)
  | .connect .. => inferInstanceAs (Decidable (_ → _ → _))
  | .undo card => inferInstanceAs (Decidable (card.Complete nimbusOrigIps file))

theorem doConnect_refused {frd : FriendService} {status : UInt32}
    (refused : ¬ (frd.account.isSome = true ∧ status = 200)) (card : CardOutcome)
    (file : Option Bytes) : doConnect frd status card file = (file, false) := by
  unfold doConnect
  cases read : frd.account with
  | none => rfl
  | some account =>
      have other : status ≠ 200 := fun same => refused ⟨by rw [read]; rfl, same⟩
      exact if_pos other

theorem doConnect_registered {frd : FriendService} {status : UInt32}
    (read : frd.account.isSome = true) (accepted : status = 200) (card : CardOutcome)
    (file : Option Bytes) :
    doConnect frd status card file = writePatch card friendsPatchIps file := by
  obtain ⟨account, found⟩ := Option.isSome_iff_exists.mp read
  unfold doConnect
  rw [found]
  exact if_neg (not_not_intro accepted)

theorem perform_truthful_iff (file : Option Bytes) (action : Action) :
    Truthful action.patch file (action.perform file) ↔ action.Complete file := by
  cases action with
  | undo card => exact writePatch_truthful_iff card nimbusOrigIps file
  | connect frd status card =>
      change Truthful friendsPatchIps file (doConnect frd status card file) ↔
        (frd.account.isSome = true → status = 200 → card.Complete friendsPatchIps file)
      by_cases registered : frd.account.isSome = true ∧ status = 200
      · rw [doConnect_registered registered.1 registered.2, writePatch_truthful_iff]
        exact ⟨fun complete _ _ => complete, fun complete => complete registered.1 registered.2⟩
      · rw [doConnect_refused registered]
        exact ⟨fun _ read accepted => absurd ⟨read, accepted⟩ registered,
          fun _ => truthful_unchanged friendsPatchIps file⟩

/-- A file of `nimbus_orig_ips`, whole or cut short, is not the redirect. -/
theorem nimbus_take_ne (count : Nat) : nimbusOrigIps.take count ≠ friendsPatchIps := by
  intro same
  have short := List.length_take_le' count nimbusOrigIps
  rw [same] at short
  exact absurd short (by decide)

/-- An action writes the redirect only after a registration that returned 200. -/
theorem perform_redirect {file : Option Bytes} {action : Action}
    (redirected : (action.perform file).1 = some friendsPatchIps) :
    file = some friendsPatchIps ∨ action.registration = some 200 := by
  cases action with
  | undo card =>
      change (writePatch card nimbusOrigIps file).1 = _ at redirected
      by_cases opens : card.opens = true
      · rw [writePatch_opened opens] at redirected
        exact absurd (Option.some.inj redirected) (nimbus_take_ne _)
      · unfold writePatch at redirected
        rw [if_neg opens] at redirected
        exact Or.inl redirected
  | connect frd status card =>
      change (doConnect frd status card file).1 = _ at redirected
      by_cases registered : frd.account.isSome = true ∧ status = 200
      · right
        obtain ⟨account, found⟩ := Option.isSome_iff_exists.mp registered.1
        change frd.account.map (fun _ => status) = some 200
        rw [found, registered.2]
        rfl
      · rw [doConnect_refused registered] at redirected
        exact Or.inl redirected

/-! ### Sequences of actions -/

/-- What the file and the verdict of an action promise, given the actions
before it and the file they started from. -/
structure Honest (start : Option Bytes) (before : List Action) (action : Action) : Prop where
  truthful : Truthful action.patch (installMachine.exec start before)
    (action.perform (installMachine.exec start before))
  earned : installMachine.exec start (before ++ [action]) = some friendsPatchIps →
    start = some friendsPatchIps ∨ 200 ∈ registrations (before ++ [action])

def NeverBroken (start : Option Bytes) (actions : List Action) : Prop :=
  Everywhere (Honest start) actions

/-- The redirect is never premature, whatever the card does. -/
theorem exec_redirect (start : Option Bytes) (actions : List Action) :
    installMachine.exec start actions = some friendsPatchIps →
      start = some friendsPatchIps ∨ 200 ∈ registrations actions := by
  refine installMachine.history_rule
    (fun actions file => file = some friendsPatchIps →
      start = some friendsPatchIps ∨ 200 ∈ registrations actions)
    ?_ ?_ actions (installMachine.guarded_true start actions)
  · exact fun redirected => Or.inl redirected
  · intro before action earlier _ redirected
    have grown : registrations (before ++ [action]) =
        registrations before ++ registrations [action] := List.filterMap_append
    rw [grown, List.mem_append]
    rcases perform_redirect redirected with already | registered
    · rcases earlier already with initially | accepted
      · exact Or.inl initially
      · exact Or.inr (Or.inl accepted)
    · right
      right
      rw [registrations, List.filterMap_cons, registered]
      exact List.mem_singleton_self 200

theorem honest_iff (start : Option Bytes) (before : List Action) (action : Action) :
    Honest start before action ↔ action.Complete (installMachine.exec start before) := by
  rw [← perform_truthful_iff]
  exact ⟨fun honest => honest.truthful,
    fun truthful => ⟨truthful, exec_redirect start (before ++ [action])⟩⟩

/-- Every verdict is true of the file, and the redirect never premature,
exactly in the sequences whose writes are all complete. -/
theorem neverBroken_iff (start : Option Bytes) (actions : List Action) :
    NeverBroken start actions ↔
      installMachine.Guarded (fun file action => action.Complete file) start actions := by
  rw [installMachine.guarded_iff_everywhere]
  constructor
  · intro sound
    exact sound.imp fun before action => (honest_iff start before action).mp
  · intro complete
    exact complete.imp fun before action => (honest_iff start before action).mpr

/-- A card that takes ten bytes of `nimbus_orig_ips`: Undo reports a failure
and the working patch is gone. -/
theorem shortWrite_breaks :
    ¬ NeverBroken (some friendsPatchIps) [.undo ⟨true, 10, 10⟩] := by
  intro sound
  have truthful := (sound [] (.undo ⟨true, 10, 10⟩) [] rfl).truthful
  exact absurd truthful (by decide)

end CommunityServers.Patcher
