import Mathlib.Data.List.AList
import CommunityServers.Foundation.FormEncoding

/-!
Contract: finite maps written as separated `key=value` fields.

Owns:
- `Params`, maps from keys to values, and setting many fields one by one;
- iteration orders: a map is ranged over in some order, not in a given one;
- that fields whose keys and values avoid the separators are read back as they
  were written, so that the map read is the map written, in whatever order;
- the length of the text, which does not depend on the order.

Does not own: escapes, or which keys a format knows.
-/

set_option autoImplicit false

namespace CommunityServers.Foundation

/-- A key with its value. -/
abbrev Field := Σ _ : Bytes, Bytes

abbrev Params := AList fun _ : Bytes => Bytes

/-- The order in which one loop ranges over a map. -/
structure Order where
  arrange : List Field → List Field
  perm : ∀ fields, (arrange fields).Perm fields

/-- The order in which the entries are kept. -/
def Order.stored : Order := ⟨fun fields => fields, fun fields => List.Perm.refl fields⟩

def formatField (field : Field) : Bytes := field.1 ++ 61 :: field.2

def cutField (text : Bytes) : Field := ⟨(cut 61 text).1, (cut 61 text).2⟩

def joinFields (fields : List Field) : Bytes := [59].intercalate (fields.map formatField)

/-- Sets one field after the other; the last value of a key stays. -/
def setAll (params : Params) (fields : List Field) : Params :=
  fields.foldl (fun params field => params.insert field.1 field.2) params

/-- Neither the separator of fields nor that of key and value is in the way. -/
@[mk_iff]
structure PlainField (field : Field) : Prop where
  noEquals : 61 ∉ field.1
  keyNoSemicolon : 59 ∉ field.1
  valueNoSemicolon : 59 ∉ field.2

instance : DecidablePred PlainField := fun field => decidable_of_iff' _ (plainField_iff field)

/-! ### Reading back -/

theorem cutField_formatField {field : Field} (plain : PlainField field) :
    cutField (formatField field) = field := by
  unfold cutField formatField
  rw [cut_append plain.noEquals]

theorem notMem_formatField {field : Field} {byte : UInt8} (other : byte ≠ 61)
    (key : byte ∉ field.1) (value : byte ∉ field.2) : byte ∉ formatField field := by
  unfold formatField
  simp [other, key, value]

theorem formatField_ne_nil (field : Field) : formatField field ≠ [] := by
  unfold formatField
  simp

theorem joinFields_cons_ne_nil (field : Field) (rest : List Field) :
    joinFields (field :: rest) ≠ [] := by
  cases rest with
  | nil => simp [joinFields, List.intercalate, formatField_ne_nil]
  | cons second others =>
      simp [joinFields, List.intercalate, List.intersperse_cons_cons]

theorem mem_joinFields {fields : List Field} {byte : UInt8} (member : byte ∈ joinFields fields) :
    byte = 59 ∨ ∃ field ∈ fields, byte ∈ formatField field := by
  unfold joinFields at member
  induction fields with
  | nil => simp [List.intercalate] at member
  | cons field rest inductionHypothesis =>
      cases rest with
      | nil =>
          simp only [List.map_cons, List.map_nil, List.intercalate, List.intersperse_singleton,
            List.flatten_cons, List.flatten_nil, List.append_nil] at member
          exact Or.inr ⟨field, List.mem_cons_self, member⟩
      | cons second others =>
          simp only [List.map_cons, List.intercalate, List.intersperse_cons_cons,
            List.flatten_cons, List.mem_append, List.mem_singleton] at member inductionHypothesis
          rcases member with inFirst | separator | later
          · exact Or.inr ⟨field, List.mem_cons_self, inFirst⟩
          · exact Or.inl separator
          · rcases inductionHypothesis later with separator | ⟨other, inRest, inOther⟩
            · exact Or.inl separator
            · exact Or.inr ⟨other, List.mem_cons_of_mem field inRest, inOther⟩

/-- Joined fields are split into the same fields. -/
theorem map_cutField_splitOn {fields : List Field} (nonempty : fields ≠ [])
    (plain : ∀ field ∈ fields, PlainField field) :
    ((joinFields fields).splitOn 59).map cutField = fields := by
  unfold joinFields
  rw [List.splitOn_intercalate]
  · rw [List.map_map]
    calc fields.map (cutField ∘ formatField) = fields.map id :=
          List.map_congr_left fun field member => cutField_formatField (plain field member)
      _ = fields := List.map_id fields
  · intro text member
    obtain ⟨field, inFields, rfl⟩ := List.mem_map.mp member
    exact notMem_formatField (by decide) (plain field inFields).keyNoSemicolon
      (plain field inFields).valueNoSemicolon
  · simpa using nonempty

theorem notMem_cut_fst (separator : UInt8) (text : Bytes) :
    separator ∉ (cut separator text).1 := by
  induction text with
  | nil => simp [cut]
  | cons byte rest inductionHypothesis =>
      unfold cut
      split
      · simp
      next different => simp [Ne.symm different, inductionHypothesis]

theorem mem_of_mem_cut {separator byte : UInt8} {text : Bytes}
    (member : byte ∈ (cut separator text).1 ∨ byte ∈ (cut separator text).2) :
    byte ∈ text := by
  induction text with
  | nil => simp [cut] at member
  | cons first rest inductionHypothesis =>
      unfold cut at member
      split at member
      · rcases member with member | member
        · cases member
        · exact List.mem_cons_of_mem first member
      · rcases member with member | member
        · rcases List.mem_cons.mp member with rfl | member
          · exact List.mem_cons_self
          · exact List.mem_cons_of_mem first (inductionHypothesis (Or.inl member))
        · exact List.mem_cons_of_mem first (inductionHypothesis (Or.inr member))

/-- A piece of a split text has no separator and only bytes of the text. -/
theorem mem_splitOn {separator : UInt8} {text piece : Bytes}
    (member : piece ∈ text.splitOn separator) :
    separator ∉ piece ∧ ∀ byte ∈ piece, byte ∈ text := by
  induction text generalizing piece with
  | nil =>
      rw [List.splitOn_nil, List.mem_singleton] at member
      subst member
      simp
  | cons first rest inductionHypothesis =>
      rw [List.splitOn_cons_eq_if_modifyHead] at member
      split at member
      · rcases List.mem_cons.mp member with rfl | member
        · simp
        · obtain ⟨absent, inside⟩ := inductionHypothesis member
          exact ⟨absent, fun byte found => List.mem_cons_of_mem first (inside byte found)⟩
      next different =>
        rcases split : rest.splitOn separator with _ | ⟨head, others⟩
        · exact absurd split (List.splitOn_ne_nil separator rest)
        · rw [split, List.modifyHead_cons] at member
          rcases List.mem_cons.mp member with rfl | member
          · obtain ⟨absent, inside⟩ := inductionHypothesis (split ▸ List.mem_cons_self)
            have other : separator ≠ first := by
              rintro rfl
              exact different (beq_self_eq_true _)
            refine ⟨by simp [other, absent], fun byte found => ?_⟩
            rcases List.mem_cons.mp found with rfl | found
            · exact List.mem_cons_self
            · exact List.mem_cons_of_mem first (inside byte found)
          · obtain ⟨absent, inside⟩ :=
              inductionHypothesis (split ▸ List.mem_cons_of_mem head member)
            exact ⟨absent, fun byte found => List.mem_cons_of_mem first (inside byte found)⟩

/-- What is cut from a text between separators is a plain field. -/
theorem plainField_cutField {text : Bytes} (noSemicolon : 59 ∉ text) :
    PlainField (cutField text) where
  noEquals := notMem_cut_fst 61 text
  keyNoSemicolon := fun member => noSemicolon (mem_of_mem_cut (Or.inl member))
  valueNoSemicolon := fun member => noSemicolon (mem_of_mem_cut (Or.inr member))

/-! ### Setting fields -/

theorem mem_entries_insert {params : Params} {key value : Bytes} {field : Field}
    (member : field ∈ (params.insert key value).entries) :
    field = ⟨key, value⟩ ∨ field ∈ params.entries := by
  rw [AList.entries_insert] at member
  rcases List.mem_cons.mp member with same | kept
  · exact Or.inl same
  · exact Or.inr ((List.kerase_sublist key params.entries).subset kept)

/-- What holds of every entry and of every field set holds of every entry
afterwards. -/
theorem forall_mem_setAll {property : Field → Prop} {params : Params} {fields : List Field}
    (before : ∀ field ∈ params.entries, property field)
    (set : ∀ field ∈ fields, property field) :
    ∀ field ∈ (setAll params fields).entries, property field := by
  induction fields generalizing params with
  | nil => exact before
  | cons first rest inductionHypothesis =>
      apply inductionHypothesis
      · intro field member
        rcases mem_entries_insert member with rfl | kept
        · exact set first List.mem_cons_self
        · exact before field kept
      · exact fun field member => set field (List.mem_cons_of_mem first member)

theorem entries_setAll (params : Params) (fields : List Field)
    (distinct : (fields ++ params.entries).NodupKeys) :
    (setAll params fields).entries.Perm (fields ++ params.entries) := by
  induction fields generalizing params with
  | nil => exact List.Perm.refl _
  | cons field rest inductionHypothesis =>
      have absent : field.1 ∉ params := by
        intro member
        have notLater := List.notMem_keys_of_nodupKeys_cons distinct
        exact notLater (List.mem_map.mpr ((List.mem_map.mp member).imp
          fun found inside => ⟨List.mem_append_right rest inside.1, inside.2⟩))
      have inserted : (params.insert field.1 field.2).entries = field :: params.entries :=
        AList.entries_insert_of_notMem absent
      have moved : (rest ++ field :: params.entries).Perm
          (field :: rest ++ params.entries) := List.perm_middle
      have next := inductionHypothesis (params.insert field.1 field.2)
      rw [inserted] at next
      exact (next ((List.perm_nodupKeys moved).mpr distinct)).trans moved

/-- Setting the entries of a map one by one, in any order, gives the map. -/
theorem setAll_empty_perm {params : Params} {fields : List Field}
    (perm : fields.Perm params.entries) : (setAll ∅ fields).entries.Perm params.entries := by
  have distinct : fields.NodupKeys := (List.perm_nodupKeys perm).mpr params.nodupKeys
  have set := entries_setAll ∅ fields
  rw [AList.empty_entries, List.append_nil] at set
  exact (set distinct).trans perm

/-! ### Length -/

theorem length_joinFields (fields : List Field) :
    (joinFields fields).length =
      (fields.map fun field => (formatField field).length).sum + (fields.length - 1) := by
  unfold joinFields
  induction fields with
  | nil => rfl
  | cons field rest inductionHypothesis =>
      cases rest with
      | nil => simp [List.intercalate]
      | cons second others =>
          simp only [List.map_cons, List.intercalate, List.intersperse_cons_cons] at *
          simp only [List.flatten_cons, List.length_append, inductionHypothesis]
          simp
          omega

theorem length_joinFields_perm {fields other : List Field} (perm : fields.Perm other) :
    (joinFields fields).length = (joinFields other).length := by
  rw [length_joinFields, length_joinFields, (perm.map _).sum_eq, perm.length_eq]

end CommunityServers.Foundation
