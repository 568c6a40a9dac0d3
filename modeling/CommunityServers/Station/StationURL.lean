import CommunityServers.Foundation.FieldList

/-!
Contract: station URLs, as the handlers read, change and write them.

Owns:
- `StationURL` with its two parameter maps, `Parse`, `Format`, `URL`, `Copy` and
  the setters and getters that the relay handlers use;
- that parsing leaves only parameters that can be written again;
- that a station which fits is read back with its scheme and parameters,
  whatever order its maps are ranged over in.

`Parse` and `Format` give up in the middle: the first keeps what it has set so
far, the second keeps the old text.

Does not own: the meaning of parameters other than address, port, type and
connection ID.
-/

set_option autoImplicit false

namespace CommunityServers.Station

open CommunityServers.Foundation

inductive URLType where
  | unknown
  | prudp
  | prudps
  | udp
deriving DecidableEq

structure StationURL where
  urlType : URLType
  url : Bytes
  flags : UInt8
  standardParams : Params
  customParams : Params
deriving DecidableEq

/-! ### Parsing -/

/-- `strings.SplitN(url, ":/", 2)`, if it gives two parts. -/
def splitScheme : Bytes → Option (Bytes × Bytes)
  | [] => none
  | byte :: rest =>
      if byte = 58 ∧ rest.head? = some 47 then some ([], rest.tail)
      else (splitScheme rest).map fun parts => (byte :: parts.1, parts.2)

def URLType.ofScheme (scheme : Bytes) : Option URLType :=
  if scheme = ascii "prudp" then some .prudp
  else if scheme = ascii "prudps" then some .prudps
  else if scheme = ascii "udp" then some .udp
  else none

def URLType.scheme : URLType → Bytes
  | .unknown => []
  | .prudp => ascii "prudp:/"
  | .prudps => ascii "prudps:/"
  | .udp => ascii "udp:/"

def portAllowed (value : Bytes) : Bool :=
  match atoi value with
  | none => false
  | some port => decide (0 ≤ port) && decide (port ≤ 65535)

/-- A standard parameter at which `Parse` and `Format` give up. -/
def refused (field : Field) : Bool :=
  (field.1 == ascii "address" && decide (256 < field.2.length)) ||
    (field.1 == ascii "port" && !portAllowed field.2)

/-- The loop over the standard parameters: what has been set, and whether the
loop came to its end. -/
def setStandard (params : Params) : List Bytes → Params × Bool
  | [] => (params, true)
  | text :: rest =>
      if refused (cutField text) then (params, false)
      else setStandard (params.insert (cutField text).1 (cutField text).2) rest

namespace StationURL

def paramValue (s : StationURL) (name : Bytes) : Option Bytes := s.standardParams.lookup name

def setParamValue (s : StationURL) (name value : Bytes) : StationURL :=
  { s with standardParams := s.standardParams.insert name value }

def numberParamValue (s : StationURL) (name : Bytes) (bits : Nat) : Option Nat :=
  (s.paramValue name).bind (parseUint bits)

def readCustom (s : StationURL) (customSection : Bytes) : StationURL :=
  if customSection = [] then s
  else
    { s with customParams := setAll s.customParams ((customSection.splitOn 59).map cutField) }

def readFlags (s : StationURL) : StationURL :=
  match s.numberParamValue (ascii "type") 8 with
  | none => s
  | some flags => { s with flags := UInt8.ofNat flags }

/-- The part of `Parse` after the scheme. -/
def readParameters (s : StationURL) (parameters : Bytes) : StationURL :=
  if parameters = [] then s
  else
    let sections := cut 35 parameters
    let read := setStandard s.standardParams (sections.1.splitOn 59)
    let s := { s with standardParams := read.1 }
    if read.2 = false then s else (s.readCustom sections.2).readFlags

def parse (s : StationURL) : StationURL :=
  if s.url = [] ∨ 1024 < s.url.length then s
  else
    match splitScheme s.url with
    | none => s
    | some (scheme, parameters) =>
        match URLType.ofScheme scheme with
        | none => s
        | some urlType => { s with urlType := urlType }.readParameters parameters

end StationURL

def newStationURL (url : Bytes) : StationURL :=
  StationURL.parse ⟨.unknown, url, 0, ∅, ∅⟩

/-! ### Formatting -/

/-- The loop over the standard parameters in `Format`; `none` if it returns. -/
def formatStandard : List Field → Option (List Bytes)
  | [] => some []
  | field :: rest =>
      if refused field then none
      else (formatStandard rest).map fun texts => formatField field :: texts

/-- The orders in which one call of `Format` ranges over the two maps. -/
structure Iteration where
  standard : Order
  custom : Order

def Iteration.stored : Iteration := ⟨Order.stored, Order.stored⟩

namespace StationURL

def format (order : Iteration) (s : StationURL) : StationURL :=
  match formatStandard (order.standard.arrange s.standardParams.entries) with
  | none => s
  | some texts =>
      let url := s.urlType.scheme ++ [59].intercalate texts
      let url :=
        if s.customParams.entries.length = 0 then url
        else url ++ 35 :: joinFields (order.custom.arrange s.customParams.entries)
      if 1024 < url.length then s else { s with url := url }

def URL (order : Iteration) (s : StationURL) : Bytes := (s.format order).url

def copy (order : Iteration) (s : StationURL) : StationURL := newStationURL (s.URL order)

def address (s : StationURL) : Option Bytes := s.paramValue (ascii "address")

def setAddress (s : StationURL) (address : Bytes) : StationURL :=
  s.setParamValue (ascii "address") address

def portNumber (s : StationURL) : Option UInt16 :=
  (s.numberParamValue (ascii "port") 16).map UInt16.ofNat

def setPortNumber (s : StationURL) (port : UInt16) : StationURL :=
  s.setParamValue (ascii "port") (formatUint port.toNat)

def rvConnectionID (s : StationURL) : Option UInt32 :=
  (s.numberParamValue (ascii "RVCID") 32).map UInt32.ofNat

end StationURL

/-! ### What parsing leaves -/

/-- A standard parameter that is read back from its text. -/
@[mk_iff]
structure PlainStandard (field : Field) : Prop extends PlainField field where
  keyNoHash : 35 ∉ field.1
  valueNoHash : 35 ∉ field.2

instance : DecidablePred PlainStandard := fun field =>
  decidable_of_iff' _ (plainStandard_iff field)

namespace StationURL

@[mk_iff]
structure Plain (s : StationURL) : Prop where
  standard : ∀ field ∈ s.standardParams.entries, PlainStandard field
  custom : ∀ field ∈ s.customParams.entries, PlainField field

instance : DecidablePred Plain := fun s => decidable_of_iff' _ (plain_iff s)

end StationURL

theorem plainStandard_cutField {text piece : Bytes} (noHash : 35 ∉ text)
    (member : piece ∈ text.splitOn 59) : PlainStandard (cutField piece) := by
  obtain ⟨noSemicolon, inside⟩ := mem_splitOn member
  have absent : 35 ∉ piece := fun found => noHash (inside 35 found)
  exact
    { plainField_cutField noSemicolon with
      keyNoHash := fun found => absent (mem_of_mem_cut (Or.inl found))
      valueNoHash := fun found => absent (mem_of_mem_cut (Or.inr found)) }

theorem forall_mem_setStandard {property : Field → Prop} {params : Params} {texts : List Bytes}
    (before : ∀ field ∈ params.entries, property field)
    (set : ∀ text ∈ texts, property (cutField text)) :
    ∀ field ∈ (setStandard params texts).1.entries, property field := by
  induction texts generalizing params with
  | nil => exact before
  | cons text rest inductionHypothesis =>
      unfold setStandard
      split
      · exact before
      · apply inductionHypothesis
        · intro field member
          rcases mem_entries_insert member with rfl | kept
          · exact set text List.mem_cons_self
          · exact before field kept
        · exact fun other member => set other (List.mem_cons_of_mem text member)

theorem readCustom_plain {s : StationURL} (plain : s.Plain) (customSection : Bytes) :
    (s.readCustom customSection).Plain := by
  unfold StationURL.readCustom
  split
  · exact plain
  · refine ⟨plain.standard, forall_mem_setAll plain.custom ?_⟩
    intro field member
    obtain ⟨piece, inSplit, rfl⟩ := List.mem_map.mp member
    exact plainField_cutField (mem_splitOn inSplit).1

theorem readFlags_plain {s : StationURL} (plain : s.Plain) : s.readFlags.Plain := by
  unfold StationURL.readFlags
  split
  · exact plain
  · exact ⟨plain.standard, plain.custom⟩

theorem readParameters_plain {s : StationURL} (plain : s.Plain) (parameters : Bytes) :
    (s.readParameters parameters).Plain := by
  unfold StationURL.readParameters
  split
  · exact plain
  · have read : StationURL.Plain { s with
        standardParams :=
          (setStandard s.standardParams ((cut 35 parameters).1.splitOn 59)).1 } :=
      ⟨forall_mem_setStandard plain.standard fun _ member =>
        plainStandard_cutField (notMem_cut_fst 35 parameters) member, plain.custom⟩
    dsimp only
    split
    · exact read
    · exact readFlags_plain (readCustom_plain read _)

/-- Whatever text a station is made of, its parameters can be written again. -/
theorem newStationURL_plain (url : Bytes) : (newStationURL url).Plain := by
  have empty : ∀ urlType : URLType, StationURL.Plain ⟨urlType, url, 0, ∅, ∅⟩ := by
    intro urlType
    constructor
    · intro field member
      cases member
    · intro field member
      cases member
  unfold newStationURL StationURL.parse
  split
  · exact empty .unknown
  split
  · exact empty .unknown
  split
  · exact empty .unknown
  next urlType _ => exact readParameters_plain (empty urlType) _

/-! ### Writing and reading back -/

namespace StationURL

/-- The length of the formatted text, in whatever order it is written. -/
def formattedLength (s : StationURL) : Nat :=
  s.urlType.scheme.length + (joinFields s.standardParams.entries).length +
    if s.customParams.entries.length = 0 then 0
    else 1 + (joinFields s.customParams.entries).length

/-- `Format` does not give up. -/
@[mk_iff]
structure Formats (s : StationURL) : Prop where
  accepted : ∀ field ∈ s.standardParams.entries, refused field = false
  short : s.formattedLength ≤ 1024

instance : DecidablePred Formats := fun s => decidable_of_iff' _ (formats_iff s)

/-- The same scheme and the same parameters, up to the order of the maps. -/
structure SameParams (s t : StationURL) : Prop where
  urlType : s.urlType = t.urlType
  standard : s.standardParams.entries.Perm t.standardParams.entries
  custom : s.customParams.entries.Perm t.customParams.entries

end StationURL

theorem formatStandard_of_accepted {fields : List Field}
    (accepted : ∀ field ∈ fields, refused field = false) :
    formatStandard fields = some (fields.map formatField) := by
  induction fields with
  | nil => rfl
  | cons field rest inductionHypothesis =>
      unfold formatStandard
      rw [accepted field List.mem_cons_self,
        inductionHypothesis fun other member => accepted other (List.mem_cons_of_mem field member)]
      rfl

theorem setStandard_of_accepted (params : Params) {texts : List Bytes}
    (accepted : ∀ text ∈ texts, refused (cutField text) = false) :
    setStandard params texts = (setAll params (texts.map cutField), true) := by
  induction texts generalizing params with
  | nil => rfl
  | cons text rest inductionHypothesis =>
      unfold setStandard
      rw [accepted text List.mem_cons_self,
        inductionHypothesis _ fun other member => accepted other (List.mem_cons_of_mem text member)]
      rfl

theorem readFlags_sameParams (s : StationURL) : s.readFlags.SameParams s := by
  unfold StationURL.readFlags
  split <;> exact ⟨rfl, List.Perm.refl _, List.Perm.refl _⟩

/-- A known scheme is found again in front of any text. -/
theorem splitScheme_scheme {urlType : URLType} (known : urlType ≠ .unknown) (rest : Bytes) :
    ∃ scheme, splitScheme (urlType.scheme ++ rest) = some (scheme, rest) ∧
      URLType.ofScheme scheme = some urlType := by
  cases urlType with
  | unknown => exact absurd rfl known
  | prudp => exact ⟨ascii "prudp", rfl, rfl⟩
  | prudps => exact ⟨ascii "prudps", rfl, rfl⟩
  | udp => exact ⟨ascii "udp", rfl, rfl⟩

/-- The text that a station is formatted as. -/
def render (urlType : URLType) (standard custom : List Field) : Bytes :=
  urlType.scheme ++
    (joinFields standard ++ if custom = [] then [] else 35 :: joinFields custom)

theorem render_length {s : StationURL} {standard custom : List Field}
    (standardPerm : standard.Perm s.standardParams.entries)
    (customPerm : custom.Perm s.customParams.entries) :
    (render s.urlType standard custom).length = s.formattedLength := by
  unfold StationURL.formattedLength
  rw [← length_joinFields_perm standardPerm, ← length_joinFields_perm customPerm,
    ← customPerm.length_eq]
  unfold render
  rcases custom with _ | ⟨first, rest⟩
  · simp
  · simp
    omega

/-- `Format` writes the station, or keeps the old text if that is too long. -/
theorem URL_of_accepted {s : StationURL}
    (accepted : ∀ field ∈ s.standardParams.entries, refused field = false) (order : Iteration) :
    s.URL order =
      if 1024 < s.formattedLength then s.url
      else render s.urlType (order.standard.arrange s.standardParams.entries)
        (order.custom.arrange s.customParams.entries) := by
  have standardPerm := order.standard.perm s.standardParams.entries
  have customPerm := order.custom.perm s.customParams.entries
  have texts := formatStandard_of_accepted
    (fun field member => accepted field (standardPerm.mem_iff.mp member))
  rw [← render_length standardPerm customPerm]
  unfold StationURL.URL StationURL.format
  rw [texts, ← customPerm.length_eq]
  unfold render
  rcases order.custom.arrange s.customParams.entries with _ | ⟨first, rest⟩
  · simp only [if_true, List.append_nil, List.length_nil]
    exact apply_ite StationURL.url _ _ _
  · simp only [List.length_cons, Nat.succ_ne_zero, if_false, List.cons_ne_nil,
      ← List.append_assoc]
    exact apply_ite StationURL.url _ _ _

theorem URL_eq_render {s : StationURL} (formats : s.Formats) (order : Iteration) :
    s.URL order = render s.urlType (order.standard.arrange s.standardParams.entries)
      (order.custom.arrange s.customParams.entries) := by
  rw [URL_of_accepted formats.accepted, if_neg (Nat.not_lt.mpr formats.short)]

theorem cut_render {standard : List Field} (plain : ∀ field ∈ standard, PlainStandard field)
    (custom : List Field) :
    cut 35 (joinFields standard ++ if custom = [] then [] else 35 :: joinFields custom) =
      (joinFields standard, if custom = [] then [] else joinFields custom) := by
  have noHash : 35 ∉ joinFields standard := by
    intro member
    rcases mem_joinFields member with separator | ⟨field, inFields, inText⟩
    · cases separator
    · exact notMem_formatField (by decide) (plain field inFields).keyNoHash
        (plain field inFields).valueNoHash inText
  split
  · rw [List.append_nil]
    exact cut_of_notMem noHash
  · exact cut_append noHash _

theorem readCustom_join (s : StationURL) {custom : List Field}
    (plain : ∀ field ∈ custom, PlainField field) :
    s.readCustom (if custom = [] then [] else joinFields custom) =
      { s with customParams := setAll s.customParams custom } := by
  unfold StationURL.readCustom
  rcases custom with _ | ⟨first, rest⟩
  · rfl
  · rw [if_neg (List.cons_ne_nil first rest), if_neg (joinFields_cons_ne_nil first rest),
      map_cutField_splitOn (List.cons_ne_nil first rest) plain]

theorem readParameters_render (s : StationURL) {standard custom : List Field}
    (nonempty : standard ≠ []) (plainStandard : ∀ field ∈ standard, PlainStandard field)
    (plainCustom : ∀ field ∈ custom, PlainField field)
    (accepted : ∀ field ∈ standard, refused field = false) :
    s.readParameters
        (joinFields standard ++ if custom = [] then [] else 35 :: joinFields custom) =
      StationURL.readFlags { s with
        standardParams := setAll s.standardParams standard
        customParams := setAll s.customParams custom } := by
  have written : joinFields standard ≠ [] := by
    rcases standard with _ | ⟨first, rest⟩
    · exact absurd rfl nonempty
    · exact joinFields_cons_ne_nil first rest
  have pieces := map_cutField_splitOn nonempty fun field member =>
    (plainStandard field member).toPlainField
  have kept : ∀ text ∈ (joinFields standard).splitOn 59, refused (cutField text) = false := by
    intro text member
    apply accepted
    rw [← pieces]
    exact List.mem_map_of_mem member
  unfold StationURL.readParameters
  rw [if_neg (by simp [written]), cut_render plainStandard]
  dsimp only
  rw [setStandard_of_accepted _ kept, pieces]
  simp only [Bool.true_eq_false, if_false]
  rw [readCustom_join _ plainCustom]

theorem newStationURL_render {urlType : URLType} {standard custom : List Field}
    (known : urlType ≠ .unknown) (nonempty : standard ≠ [])
    (plainStandard : ∀ field ∈ standard, PlainStandard field)
    (plainCustom : ∀ field ∈ custom, PlainField field)
    (accepted : ∀ field ∈ standard, refused field = false)
    (short : (render urlType standard custom).length ≤ 1024) :
    newStationURL (render urlType standard custom) =
      StationURL.readFlags ⟨urlType, render urlType standard custom, 0, setAll ∅ standard,
        setAll ∅ custom⟩ := by
  have notEmpty : render urlType standard custom ≠ [] := by
    cases urlType with
    | unknown => exact absurd rfl known
    | prudp => exact List.cons_ne_nil _ _
    | prudps => exact List.cons_ne_nil _ _
    | udp => exact List.cons_ne_nil _ _
  obtain ⟨scheme, split, found⟩ := splitScheme_scheme known
    (joinFields standard ++ if custom = [] then [] else 35 :: joinFields custom)
  unfold newStationURL StationURL.parse
  rw [if_neg (not_or.mpr ⟨notEmpty, Nat.not_lt.mpr short⟩)]
  change splitScheme (render urlType standard custom) = _ at split
  simp only [split, found]
  rw [readParameters_render _ nonempty plainStandard plainCustom accepted]

/-- **Round trip.** A station that fits is read back with its scheme and its
parameters, in whatever order they are written. -/
theorem newStationURL_URL {s : StationURL} (known : s.urlType ≠ .unknown)
    (nonempty : s.standardParams.entries ≠ []) (plain : s.Plain) (formats : s.Formats)
    (order : Iteration) : (newStationURL (s.URL order)).SameParams s := by
  have standardPerm := order.standard.perm s.standardParams.entries
  have customPerm := order.custom.perm s.customParams.entries
  rw [URL_eq_render formats order, newStationURL_render known]
  · obtain ⟨urlType, standard, custom⟩ := readFlags_sameParams ⟨s.urlType,
      render s.urlType (order.standard.arrange s.standardParams.entries)
        (order.custom.arrange s.customParams.entries), 0,
      setAll ∅ (order.standard.arrange s.standardParams.entries),
      setAll ∅ (order.custom.arrange s.customParams.entries)⟩
    exact ⟨urlType, standard.trans (setAll_empty_perm standardPerm),
      custom.trans (setAll_empty_perm customPerm)⟩
  · intro empty
    rw [empty] at standardPerm
    exact nonempty standardPerm.nil_eq.symm
  · exact fun field member => plain.standard field (standardPerm.mem_iff.mp member)
  · exact fun field member => plain.custom field (customPerm.mem_iff.mp member)
  · exact fun field member => formats.accepted field (standardPerm.mem_iff.mp member)
  · exact (render_length standardPerm customPerm).trans_le formats.short

/-! ### Stations with the same parameters -/

namespace StationURL.SameParams

variable {s t : StationURL} (same : s.SameParams t)
include same

theorem setParamValue (name value : Bytes) :
    (s.setParamValue name value).SameParams (t.setParamValue name value) where
  urlType := same.urlType
  standard := AList.perm_insert same.standard
  custom := same.custom

theorem formattedLength_eq : s.formattedLength = t.formattedLength := by
  unfold formattedLength
  rw [same.urlType, length_joinFields_perm same.standard, length_joinFields_perm same.custom,
    same.custom.length_eq]

theorem paramValue_eq (name : Bytes) : s.paramValue name = t.paramValue name :=
  AList.perm_lookup same.standard

end StationURL.SameParams

/-! ### A new address and port -/

@[simp] theorem paramValue_setParamValue (s : StationURL) (name value : Bytes) :
    (s.setParamValue name value).paramValue name = some value := by
  unfold StationURL.paramValue StationURL.setParamValue
  exact AList.lookup_insert _

theorem paramValue_setParamValue_ne (s : StationURL) {name other : Bytes} (value : Bytes)
    (different : other ≠ name) :
    (s.setParamValue name value).paramValue other = s.paramValue other := by
  unfold StationURL.paramValue StationURL.setParamValue
  exact AList.lookup_insert_ne different

theorem address_setPortNumber (s : StationURL) (address : Bytes) (port : UInt16) :
    ((s.setAddress address).setPortNumber port).address = some address := by
  unfold StationURL.address StationURL.setPortNumber StationURL.setAddress
  rw [paramValue_setParamValue_ne _ _ (by decide), paramValue_setParamValue]

theorem portNumber_setPortNumber (s : StationURL) (port : UInt16) :
    (s.setPortNumber port).portNumber = some port := by
  unfold StationURL.portNumber StationURL.numberParamValue StationURL.setPortNumber
  rw [paramValue_setParamValue, Option.bind_some, parseUint_formatUint port.toNat_lt,
    Option.map_some, UInt16.ofNat_toNat]

theorem portAllowed_formatUint (port : UInt16) : portAllowed (formatUint port.toNat) = true := by
  have bound := port.toNat_lt
  unfold portAllowed
  rw [atoi_formatUint (by omega)]
  simp
  omega

theorem accepted_setPortNumber {s : StationURL} {address : Bytes}
    (short : address.length ≤ 256) (port : UInt16) :
    ∀ field ∈ ((s.setAddress address).setPortNumber port).standardParams.entries,
      refused field = false := by
  rintro ⟨key, value⟩ member
  have found : ((s.setAddress address).setPortNumber port).paramValue key = some value :=
    AList.mem_lookup_iff.mpr member
  unfold refused
  by_cases isPort : key = ascii "port"
  · have other : key ≠ ascii "address" := by
      rw [isPort]
      decide
    have set : formatUint port.toNat = value := by
      rw [isPort, StationURL.setPortNumber, paramValue_setParamValue] at found
      exact Option.some.inj found
    simp [other, ← set, portAllowed_formatUint]
  · by_cases isAddress : key = ascii "address"
    · have set : address = value := by
        rw [isAddress] at found
        exact Option.some.inj ((address_setPortNumber s address port).symm.trans found)
      simp [Nat.not_lt.mpr short, isPort, ← set]
    · simp [isPort, isAddress]

theorem setParamValue_plain {s : StationURL} (plain : s.Plain) {name value : Bytes}
    (field : PlainStandard ⟨name, value⟩) : (s.setParamValue name value).Plain where
  standard other member := by
    rcases mem_entries_insert member with rfl | kept
    · exact field
    · exact plain.standard other kept
  custom := plain.custom

theorem plain_setPortNumber {address : Bytes} (noSemicolon : 59 ∉ address)
    (noHash : 35 ∉ address) {s : StationURL} (plain : s.Plain) (port : UInt16) :
    ((s.setAddress address).setPortNumber port).Plain := by
  have digits : ∀ byte : UInt8, isDigit byte = false → byte ∉ formatUint port.toNat :=
    fun byte other => notMem_formatUint port.toNat other
  apply setParamValue_plain
  · have name : 61 ∉ ascii "address" ∧ 59 ∉ ascii "address" ∧ 35 ∉ ascii "address" := by decide
    apply setParamValue_plain plain
    exact ⟨⟨name.1, name.2.1, noSemicolon⟩, name.2.2, noHash⟩
  · have name : 61 ∉ ascii "port" ∧ 59 ∉ ascii "port" ∧ 35 ∉ ascii "port" := by decide
    exact ⟨⟨name.1, name.2.1, digits 59 (by decide)⟩, name.2.2, digits 35 (by decide)⟩

/-- A station at a new address and port is read back as it is, if it fits. -/
theorem newStationURL_setPortNumber {address : Bytes} (short : address.length ≤ 256)
    (noSemicolon : 59 ∉ address) (noHash : 35 ∉ address) {s : StationURL}
    (known : s.urlType ≠ .unknown) (plain : s.Plain) (port : UInt16)
    (fits : ((s.setAddress address).setPortNumber port).formattedLength ≤ 1024)
    (order : Iteration) :
    (newStationURL (((s.setAddress address).setPortNumber port).URL order)).SameParams
      ((s.setAddress address).setPortNumber port) := by
  have nonempty :
      ((s.setAddress address).setPortNumber port).standardParams.entries ≠ [] := by
    unfold StationURL.setPortNumber StationURL.setParamValue
    dsimp only
    rw [AList.entries_insert]
    exact List.cons_ne_nil _ _
  have sameType : ((s.setAddress address).setPortNumber port).urlType ≠ .unknown := known
  apply newStationURL_URL sameType nonempty (plain_setPortNumber noSemicolon noHash plain port)
  exact ⟨accepted_setPortNumber short port, fits⟩

theorem StationURL.SameParams.portNumber_eq {s t : StationURL} (same : s.SameParams t) :
    s.portNumber = t.portNumber := by
  unfold StationURL.portNumber StationURL.numberParamValue
  rw [same.paramValue_eq (ascii "port")]

end CommunityServers.Station
