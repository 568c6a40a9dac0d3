import CommunityServers.Foundation.Bytes

/-!
Contract: readers of a byte string from front to back.

Owns:
- readers that return a value and the bytes left, or an error text;
- what one reader makes of bytes that another wrote, whatever follows them, and
  how that composes along a sequence, a counted repetition and a loop that runs
  while bytes are left;
- how many bytes a successful reader takes off the front.

Does not own: any particular format or error text.
-/

set_option autoImplicit false

namespace CommunityServers.Foundation

/-- A reader: the value read and the bytes left, or the text of an error. -/
abbrev Reader (Value : Type) := StateT Bytes (Except String) Value

namespace Reader

variable {Value Other : Type}

def fail (text : String) : Reader Value := fun _ => .error text

/-- Fails with a text unless the condition holds. -/
def ensure (condition : Bool) (text : String) : Reader Unit :=
  if condition then pure () else fail text

/-- The number of bytes left. -/
def remaining : Reader Nat := fun input => .ok (input.length, input)

/-- The next bytes, or the error when there are fewer. -/
def next (count : Nat) (text : String) : Reader Bytes := fun input =>
  if input.length < count then .error text else .ok (input.take count, input.drop count)

/-- A value made of a fixed number of bytes. -/
def fixed (count : Nat) (text : String) (convert : Bytes → Value) : Reader Value := do
  let bytes ← next count text
  return convert bytes

/-- All bytes left. -/
def rest : Reader Bytes := fun input => .ok (input, [])

/-- Puts a text in front of any error. -/
def context (text : String) (reader : Reader Value) : Reader Value := fun input =>
  match reader input with
  | .error reason => .error (text ++ reason)
  | .ok result => .ok result

/-- Runs a reader on bytes taken out before, which it may leave unread. -/
def onBytes (data : Bytes) (reader : Reader Value) : Reader Value := fun input =>
  match reader data with
  | .error reason => .error reason
  | .ok (value, _) => .ok (value, input)

/-- The same reader a fixed number of times. -/
def times (reader : Reader Value) : Nat → Reader (List Value)
  | 0 => pure []
  | count + 1 => do
      let value ← reader
      let values ← times reader count
      return value :: values

/-- Runs a body while bytes are left, at most as often as it is allowed to. -/
def loop (body : Value → Reader Value) : Nat → Value → Reader Value
  | 0, value => pure value
  | fuel + 1, value => fun input =>
      match input with
      | [] => .ok (value, [])
      | _ :: _ => (body value >>= loop body fuel) input

/-- Runs a body while bytes are left. -/
def whileRemaining (body : Value → Reader Value) (value : Value) : Reader Value := fun input =>
  loop body input.length value input

/-- Values read one after another until no bytes are left or one fails; those
read before a failure are kept. -/
def collect (reader : Reader Value) : Nat → Bytes → List Value × Option String
  | 0, _ => ([], none)
  | _ + 1, [] => ([], none)
  | fuel + 1, byte :: input =>
      match reader (byte :: input) with
      | .error reason => ([], some reason)
      | .ok (value, left) =>
          let later := collect reader fuel left
          (value :: later.1, later.2)

/-- Every value the bytes hold, and the error that ended the reading early. -/
def collectAll (reader : Reader Value) (input : Bytes) : List Value × Option String :=
  collect reader input.length input

/-! ### Running -/

@[simp] theorem pure_apply (value : Value) (input : Bytes) :
    (pure value : Reader Value) input = .ok (value, input) := rfl

theorem bind_apply (first : Reader Value) (second : Value → Reader Other) (input : Bytes) :
    (first >>= second) input =
      match first input with
      | .error reason => .error reason
      | .ok (value, left) => second value left := by
  show Except.bind (first input) (fun result => second result.1 result.2) = _
  cases first input <;> rfl

theorem bind_of_ok {first : Reader Value} {second : Value → Reader Other} {input left : Bytes}
    {value : Value} (succeeds : first input = .ok (value, left)) :
    (first >>= second) input = second value left := by
  rw [bind_apply, succeeds]

theorem bind_eq_ok {first : Reader Value} {second : Value → Reader Other} {input left : Bytes}
    {value : Other} :
    (first >>= second) input = .ok (value, left) ↔
      ∃ middle between, first input = .ok (middle, between) ∧
        second middle between = .ok (value, left) := by
  rw [bind_apply]
  cases outcome : first input with
  | error reason => simp
  | ok result => exact ⟨fun holds => ⟨result.1, result.2, rfl, holds⟩, by
      rintro ⟨middle, between, same, holds⟩
      obtain rfl := Except.ok.inj same
      exact holds⟩

theorem ensure_of_true {condition : Bool} (holds : condition = true) (text : String) :
    ensure condition text = pure () := by
  rw [ensure, if_pos holds]

theorem ensure_eq_ok {condition : Bool} {text : String} {input left : Bytes} :
    ensure condition text input = .ok ((), left) ↔ condition = true ∧ left = input := by
  cases condition <;> simp [ensure, fail, eq_comm]

theorem next_append {front : Bytes} {count : Nat} (width : front.length = count)
    (text : String) (back : Bytes) : next count text (front ++ back) = .ok (front, back) := by
  subst width
  simp [next]

theorem next_eq_ok {count : Nat} {text : String} {input front left : Bytes} :
    next count text input = .ok (front, left) ↔
      input = front ++ left ∧ front.length = count := by
  constructor
  · intro read
    unfold next at read
    split at read
    next => cases read
    next enough =>
      obtain ⟨rfl, rfl⟩ := Prod.mk.inj (Except.ok.inj read)
      exact ⟨(List.take_append_drop count input).symm, List.length_take_of_le (by omega)⟩
  · rintro ⟨rfl, width⟩
    exact next_append width text left

/-- Fixed-width values whose bytes determine them are read from exactly their
bytes. -/
theorem fixed_eq_ok {count : Nat} {text : String} {convert : Bytes → Value}
    {write : Value → Bytes} (width : ∀ value, (write value).length = count)
    (back : ∀ value, convert (write value) = value)
    (forth : ∀ bytes, bytes.length = count → write (convert bytes) = bytes)
    {input left : Bytes} {value : Value} :
    fixed count text convert input = .ok (value, left) ↔ input = write value ++ left := by
  constructor
  · intro read
    obtain ⟨bytes, between, taken, converted⟩ := bind_eq_ok.mp read
    obtain ⟨rfl, size⟩ := next_eq_ok.mp taken
    obtain ⟨rfl, rfl⟩ := Prod.mk.inj (Except.ok.inj converted)
    rw [forth bytes size]
  · rintro rfl
    rw [fixed, bind_of_ok (next_append (width value) text left), back, pure_apply]

theorem context_eq_ok {text : String} {reader : Reader Value} {input left : Bytes}
    {value : Value} :
    context text reader input = .ok (value, left) ↔ reader input = .ok (value, left) := by
  unfold context
  cases reader input <;> simp

theorem onBytes_of_ok {data left : Bytes} {reader : Reader Value} {value : Value}
    (succeeds : reader data = .ok (value, left)) : onBytes data reader = pure value := by
  funext input
  rw [onBytes, succeeds, pure_apply]

/-! ### Reading what was written -/

/-- Bytes are read as a value, whatever comes after them. -/
def Reads (reader : Reader Value) (bytes : Bytes) (value : Value) : Prop :=
  ∀ back, reader (bytes ++ back) = .ok (value, back)

theorem reads_pure (value : Value) : Reads (pure value) [] value := fun _ => rfl

theorem Reads.bind {first : Reader Value} {second : Value → Reader Other} {front back : Bytes}
    {value : Value} {result : Other} (head : Reads first front value)
    (tail : Reads (second value) back result) :
    Reads (first >>= second) (front ++ back) result := by
  intro after
  rw [List.append_assoc, bind_of_ok (head (back ++ after)), tail after]

/-- A step that reads nothing more. -/
theorem Reads.bind_pure {first : Reader Value} {front : Bytes} {value : Value}
    (head : Reads first front value) (function : Value → Other) :
    Reads (first >>= fun read => pure (function read)) front (function value) := by
  intro after
  rw [bind_of_ok (head after), pure_apply]

theorem Reads.context {reader : Reader Value} {bytes : Bytes} {value : Value}
    (reads : Reads reader bytes value) (text : String) :
    Reads (reader.context text) bytes value :=
  fun back => context_eq_ok.mpr (reads back)

theorem reads_next {front : Bytes} {count : Nat} (width : front.length = count)
    (text : String) : Reads (next count text) front front :=
  next_append width text

theorem reads_fixed {count : Nat} {text : String} {convert : Bytes → Value} {bytes : Bytes}
    {value : Value} (width : bytes.length = count) (same : convert bytes = value) :
    Reads (fixed count text convert) bytes value := by
  subst same
  exact (reads_next width text).bind_pure convert

/-- Values written one after another are read back one after another. -/
theorem reads_times {reader : Reader Value} {write : Value → Bytes} {values : List Value}
    (each : ∀ value ∈ values, Reads reader (write value) value) :
    Reads (times reader values.length) (values.flatMap write) values := by
  induction values with
  | nil => exact reads_pure []
  | cons value rest inductionHypothesis =>
      have head := each value List.mem_cons_self
      have tail := inductionHypothesis fun other member =>
        each other (List.mem_cons_of_mem value member)
      rw [List.flatMap_cons]
      exact head.bind (tail.bind_pure (value :: ·))

/-! ### Loops that take bytes off the front -/

/-- A successful reader leaves fewer bytes than it found. -/
def Shortens (reader : Reader Value) : Prop :=
  ∀ input value left, reader input = .ok (value, left) → left.length < input.length

/-- A successful reader leaves no more bytes than it found. -/
def KeepsShort (reader : Reader Value) : Prop :=
  ∀ input value left, reader input = .ok (value, left) → left.length ≤ input.length

theorem Shortens.keepsShort {reader : Reader Value} (shortens : Shortens reader) :
    KeepsShort reader :=
  fun input value left read => Nat.le_of_lt (shortens input value left read)

theorem keepsShort_pure (value : Value) : KeepsShort (pure value : Reader Value) := by
  intro input result left read
  obtain ⟨-, rfl⟩ := Prod.mk.inj (Except.ok.inj read)
  exact le_rfl

theorem keepsShort_ensure (condition : Bool) (text : String) :
    KeepsShort (ensure condition text) := by
  intro input result left read
  exact le_of_eq (congrArg List.length (ensure_eq_ok.mp read).2)

theorem keepsShort_next (count : Nat) (text : String) : KeepsShort (next count text) := by
  intro input front left read
  obtain ⟨rfl, -⟩ := next_eq_ok.mp read
  simp

theorem shortens_next {count : Nat} (positive : 0 < count) (text : String) :
    Shortens (next count text) := by
  intro input front left read
  obtain ⟨rfl, width⟩ := next_eq_ok.mp read
  rw [List.length_append]
  omega

theorem shortens_fixed {count : Nat} (positive : 0 < count) (text : String)
    (convert : Bytes → Value) : Shortens (fixed count text convert) := by
  intro input value left read
  obtain ⟨bytes, between, taken, converted⟩ := bind_eq_ok.mp read
  obtain ⟨-, rfl⟩ := Prod.mk.inj (Except.ok.inj converted)
  exact shortens_next positive text _ _ _ taken

theorem keepsShort_onBytes (data : Bytes) (reader : Reader Value) :
    KeepsShort (onBytes data reader) := by
  intro input value left read
  unfold onBytes at read
  cases outcome : reader data with
  | error reason => rw [outcome] at read; cases read
  | ok result =>
      rw [outcome] at read
      exact le_of_eq (congrArg List.length (Prod.mk.inj (Except.ok.inj read)).2.symm)

theorem keepsShort_remaining : KeepsShort remaining := by
  intro input count left read
  obtain ⟨-, rfl⟩ := Prod.mk.inj (Except.ok.inj read)
  exact le_rfl

theorem KeepsShort.bind {first : Reader Value} {second : Value → Reader Other}
    (head : KeepsShort first) (tail : ∀ value, KeepsShort (second value)) :
    KeepsShort (first >>= second) := by
  intro input result left read
  obtain ⟨middle, between, firstRead, secondRead⟩ := bind_eq_ok.mp read
  exact (tail middle _ _ _ secondRead).trans (head _ _ _ firstRead)

theorem Shortens.bind {first : Reader Value} {second : Value → Reader Other}
    (head : Shortens first) (tail : ∀ value, KeepsShort (second value)) :
    Shortens (first >>= second) := by
  intro input result left read
  obtain ⟨middle, between, firstRead, secondRead⟩ := bind_eq_ok.mp read
  exact (tail middle _ _ _ secondRead).trans_lt (head _ _ _ firstRead)

theorem keepsShort_ite {condition : Prop} [Decidable condition] {first second : Reader Value}
    (head : KeepsShort first) (tail : KeepsShort second) :
    KeepsShort (if condition then first else second) := by
  split
  · exact head
  · exact tail

theorem KeepsShort.context {reader : Reader Value} (keeps : KeepsShort reader)
    (text : String) : KeepsShort (reader.context text) :=
  fun input value left read => keeps input value left (context_eq_ok.mp read)

theorem Shortens.context {reader : Reader Value} (shortens : Shortens reader)
    (text : String) : Shortens (reader.context text) :=
  fun input value left read => shortens input value left (context_eq_ok.mp read)

section Loops

variable {body : Value → Reader Value}

/-- Fuel beyond the number of bytes left changes nothing. -/
theorem loop_eq_of_le (shortens : ∀ value, Shortens (body value)) {fuel more : Nat}
    {value : Value} {input : Bytes} (enough : input.length ≤ fuel) (atLeast : fuel ≤ more) :
    loop body more value input = loop body fuel value input := by
  induction fuel generalizing more value input with
  | zero =>
      obtain rfl := List.length_eq_zero_iff.mp (Nat.le_zero.mp enough)
      cases more <;> rfl
  | succ fuel inductionHypothesis =>
      obtain ⟨more, rfl⟩ := Nat.exists_eq_add_of_le' (Nat.one_le_of_lt atLeast)
      cases input with
      | nil => rfl
      | cons byte rest =>
          show (body value >>= loop body more) _ = (body value >>= loop body fuel) _
          rw [bind_apply, bind_apply]
          cases outcome : body value (byte :: rest) with
          | error reason => rfl
          | ok result =>
              have shorter := shortens value _ _ _ outcome
              rw [List.length_cons] at shorter enough
              exact inductionHypothesis (by omega) (by omega)

/-- One turn of the loop. -/
theorem whileRemaining_of_ok (shortens : ∀ value, Shortens (body value)) {value middle : Value}
    {input left : Bytes} (bytesLeft : input ≠ [])
    (turn : body value input = .ok (middle, left)) :
    whileRemaining body value input = whileRemaining body middle left := by
  obtain ⟨byte, rest, rfl⟩ := List.exists_cons_of_ne_nil bytesLeft
  have shorter := shortens value _ _ _ turn
  rw [List.length_cons] at shorter
  show (body value >>= loop body rest.length) _ = _
  rw [bind_of_ok turn]
  exact loop_eq_of_le shortens le_rfl (by omega)

variable {reader : Reader Value}

theorem collect_eq_of_le (shortens : Shortens reader) {fuel more : Nat} {input : Bytes}
    (enough : input.length ≤ fuel) (atLeast : fuel ≤ more) :
    collect reader more input = collect reader fuel input := by
  induction fuel generalizing more input with
  | zero =>
      obtain rfl := List.length_eq_zero_iff.mp (Nat.le_zero.mp enough)
      cases more <;> rfl
  | succ fuel inductionHypothesis =>
      obtain ⟨more, rfl⟩ := Nat.exists_eq_add_of_le' (Nat.one_le_of_lt atLeast)
      cases input with
      | nil => rfl
      | cons byte rest =>
          rw [collect, collect]
          cases outcome : reader (byte :: rest) with
          | error reason => rfl
          | ok result =>
              have shorter := shortens _ _ _ outcome
              rw [List.length_cons] at shorter enough
              have same : collect reader more result.2 = collect reader fuel result.2 :=
                inductionHypothesis (by omega) (by omega)
              simp only [same]

theorem collectAll_of_ok (shortens : Shortens reader) {input left : Bytes} {value : Value}
    (bytesLeft : input ≠ []) (read : reader input = .ok (value, left)) :
    collectAll reader input =
      (value :: (collectAll reader left).1, (collectAll reader left).2) := by
  obtain ⟨byte, rest, rfl⟩ := List.exists_cons_of_ne_nil bytesLeft
  have shorter := shortens _ _ _ read
  rw [List.length_cons] at shorter
  have same := collect_eq_of_le shortens (le_refl left.length) (Nat.le_of_lt_succ shorter)
  rw [collectAll, List.length_cons, collect, read]
  simp only [same, collectAll]

/-- Everything written one after another is collected, in order; what follows
is read after it. -/
theorem collectAll_flatMap {Source : Type} (shortens : Shortens reader)
    (write : Source → Bytes) (value : Source → Value) {sources : List Source}
    (each : ∀ source ∈ sources, Reads reader (write source) (value source)) (back : Bytes) :
    collectAll reader (sources.flatMap write ++ back) =
      (sources.map value ++ (collectAll reader back).1, (collectAll reader back).2) := by
  induction sources with
  | nil => rfl
  | cons source rest inductionHypothesis =>
      have head := each source List.mem_cons_self
      have tail := inductionHypothesis fun other member =>
        each other (List.mem_cons_of_mem source member)
      have bytesLeft : write source ++ (rest.flatMap write ++ back) ≠ [] := by
        intro empty
        have shorter := shortens _ _ _ (head (rest.flatMap write ++ back))
        rw [empty] at shorter
        exact Nat.not_lt_zero _ shorter
      rw [List.flatMap_cons, List.append_assoc, collectAll_of_ok shortens bytesLeft (head _),
        tail]
      rfl

end Loops

end Reader

end CommunityServers.Foundation
