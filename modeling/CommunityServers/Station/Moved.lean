import CommunityServers.Station.StationURL

/-!
Contract: a station URL that is read, moved to another address and port, and
written again.

Owns:
- the texts that `Parse` reads to their end, and what it makes of them;
- that `Copy` keeps every parameter of such a station, fitting or not;
- the exact sizes at which the moved station is what the text says.

Does not own: which address and port a station is moved to.
-/

set_option autoImplicit false

namespace CommunityServers.Station

open CommunityServers.Foundation

/-- A text that `Parse` reads to its end: a known scheme, at most 1024 bytes,
and no standard parameter at which it gives up. -/
def ReadsCompletely (url : Bytes) : Prop :=
  url.length ≤ 1024 ∧
    match splitScheme url with
    | none => False
    | some (scheme, parameters) =>
        (URLType.ofScheme scheme).isSome = true ∧
          ∀ text ∈ (cut 35 parameters).1.splitOn 59, refused (cutField text) = false

instance (url : Bytes) : Decidable (ReadsCompletely url) := by
  unfold ReadsCompletely
  cases splitScheme url <;> infer_instance

/-- A text reads as a station moved to an address and port: with the station's
scheme and with all its other parameters. -/
structure ReadsMoved (original : StationURL) (address : Bytes) (port : UInt16)
    (text : Bytes) : Prop where
  address : (newStationURL text).address = some address
  portNumber : (newStationURL text).portNumber = some port
  urlType : (newStationURL text).urlType = original.urlType
  standard : ∀ name, name ≠ ascii "address" → name ≠ ascii "port" →
    (newStationURL text).paramValue name = original.paramValue name
  custom : ∀ name,
    (newStationURL text).customParams.lookup name = original.customParams.lookup name

/-! ### What a text is read as -/

theorem readFlags_url (s : StationURL) : s.readFlags.url = s.url := by
  unfold StationURL.readFlags
  split <;> rfl

theorem readCustom_url (s : StationURL) (customSection : Bytes) :
    (s.readCustom customSection).url = s.url := by
  unfold StationURL.readCustom
  split <;> rfl

theorem readParameters_url (s : StationURL) (parameters : Bytes) :
    (s.readParameters parameters).url = s.url := by
  unfold StationURL.readParameters
  split
  · rfl
  · dsimp only
    split
    · rfl
    · rw [readFlags_url, readCustom_url]

/-- A station made of a text keeps it. -/
theorem newStationURL_url (url : Bytes) : (newStationURL url).url = url := by
  unfold newStationURL StationURL.parse
  split
  · rfl
  split
  · rfl
  split
  · rfl
  · rw [readParameters_url]

/-- A station as a complete text leaves it. -/
structure Whole (s : StationURL) : Prop where
  known : s.urlType ≠ .unknown
  plain : s.Plain
  accepted : ∀ field ∈ s.standardParams.entries, refused field = false
  inhabited : s.standardParams.entries = [] → s.customParams.entries = []
  reread : newStationURL s.url = s

/-- A station that nothing keeps from being written with all its parameters. -/
@[mk_iff]
structure Writable (s : StationURL) : Prop where
  known : s.urlType ≠ .unknown
  accepted : ∀ field ∈ s.standardParams.entries, refused field = false
  inhabited : s.standardParams.entries = [] → s.customParams.entries = []

instance : DecidablePred Writable := fun s => decidable_of_iff' _ (writable_iff s)

theorem Writable.whole {url : Bytes} (writable : Writable (newStationURL url)) :
    Whole (newStationURL url) where
  known := writable.known
  plain := newStationURL_plain url
  accepted := writable.accepted
  inhabited := writable.inhabited
  reread := by rw [newStationURL_url]

theorem ofScheme_known {scheme : Bytes} {urlType : URLType}
    (found : URLType.ofScheme scheme = some urlType) : urlType ≠ .unknown := by
  rintro rfl
  unfold URLType.ofScheme at found
  split at found
  · cases found
  split at found
  · cases found
  split at found <;> cases found

theorem setAll_entries_ne_nil (params : Params) {fields : List Field} (nonempty : fields ≠ []) :
    (setAll params fields).entries ≠ [] := by
  rcases List.eq_nil_or_concat fields with rfl | ⟨front, last, rfl⟩
  · exact absurd rfl nonempty
  · unfold setAll
    rw [List.concat_eq_append, List.foldl_append]
    exact List.cons_ne_nil _ _

theorem accepted_setAll {texts : List Bytes}
    (accepted : ∀ text ∈ texts, refused (cutField text) = false) :
    ∀ field ∈ (setAll ∅ (texts.map cutField)).entries, refused field = false := by
  apply forall_mem_setAll
  · intro field member
    cases member
  · intro field member
    obtain ⟨text, inTexts, rfl⟩ := List.mem_map.mp member
    exact accepted text inTexts

theorem readCustom_standard (s : StationURL) (customSection : Bytes) :
    (s.readCustom customSection).urlType = s.urlType ∧
      (s.readCustom customSection).standardParams = s.standardParams := by
  unfold StationURL.readCustom
  split <;> exact ⟨rfl, rfl⟩

theorem readFlags_standard (s : StationURL) :
    s.readFlags.urlType = s.urlType ∧ s.readFlags.standardParams = s.standardParams := by
  unfold StationURL.readFlags
  split <;> exact ⟨rfl, rfl⟩

theorem splitOn_ne_nil (text : Bytes) : text.splitOn 59 ≠ [] := by
  intro empty
  have length := congrArg List.length empty
  simp at length

/-- Reading the parameters of a complete text. -/
theorem readParameters_complete (urlType : URLType) (url : Bytes) {parameters : Bytes}
    (nonempty : parameters ≠ [])
    (accepted : ∀ text ∈ (cut 35 parameters).1.splitOn 59, refused (cutField text) = false) :
    StationURL.readParameters ⟨urlType, url, 0, ∅, ∅⟩ parameters =
      (StationURL.readCustom ⟨urlType, url, 0,
        setAll ∅ (((cut 35 parameters).1.splitOn 59).map cutField), ∅⟩
        (cut 35 parameters).2).readFlags := by
  unfold StationURL.readParameters
  rw [if_neg nonempty]
  dsimp only
  rw [setStandard_of_accepted ∅ accepted]
  rfl

theorem ReadsCompletely.whole {url : Bytes} (complete : ReadsCompletely url) :
    Whole (newStationURL url) := by
  have plain := newStationURL_plain url
  have reread : newStationURL (newStationURL url).url = newStationURL url := by
    rw [newStationURL_url]
  obtain ⟨short, reads⟩ := complete
  cases split : splitScheme url with
  | none =>
      rw [split] at reads
      cases reads
  | some parts =>
      obtain ⟨scheme, parameters⟩ := parts
      rw [split] at reads
      obtain ⟨isKnown, accepted⟩ := reads
      obtain ⟨urlType, found⟩ := Option.isSome_iff_exists.mp isKnown
      have notEmpty : url ≠ [] := by
        rintro rfl
        cases split
      have parsed : newStationURL url =
          StationURL.readParameters ⟨urlType, url, 0, ∅, ∅⟩ parameters := by
        unfold newStationURL StationURL.parse
        rw [if_neg (not_or.mpr ⟨notEmpty, Nat.not_lt.mpr short⟩)]
        simp only [split, found]
      by_cases nothing : parameters = []
      · have bare : newStationURL url = ⟨urlType, url, 0, ∅, ∅⟩ := by
          rw [parsed, nothing]
          rfl
        refine ⟨?_, plain, ?_, ?_, reread⟩
        · rw [bare]
          exact ofScheme_known found
        · rw [bare]
          intro field member
          cases member
        · rw [bare]
          exact fun _ => rfl
      · rw [readParameters_complete urlType url nothing accepted] at parsed
        have standard : (newStationURL url).standardParams =
            setAll ∅ (((cut 35 parameters).1.splitOn 59).map cutField) := by
          rw [parsed, (readFlags_standard _).2, (readCustom_standard _ _).2]
        refine ⟨?_, plain, ?_, ?_, reread⟩
        · rw [parsed, (readFlags_standard _).1, (readCustom_standard _ _).1]
          exact ofScheme_known found
        · rw [standard]
          exact accepted_setAll accepted
        · intro empty
          rw [standard] at empty
          refine absurd empty (setAll_entries_ne_nil ∅ ?_)
          rw [ne_eq, List.map_eq_nil_iff]
          exact splitOn_ne_nil _

/-! ### Copies -/

theorem sameParams_refl (s : StationURL) : s.SameParams s :=
  ⟨rfl, List.Perm.refl _, List.Perm.refl _⟩

theorem newStationURL_scheme {urlType : URLType} (known : urlType ≠ .unknown) :
    newStationURL urlType.scheme = ⟨urlType, urlType.scheme, 0, ∅, ∅⟩ := by
  cases urlType with
  | unknown => exact absurd rfl known
  | prudp => rfl
  | prudps => rfl
  | udp => rfl

/-- A copy has the parameters of its original: those it writes, or, if they do
not fit, those of the text it was made of. -/
theorem Whole.copy_sameParams {s : StationURL} (whole : Whole s) (order : Iteration) :
    (s.copy order).SameParams s := by
  unfold StationURL.copy
  by_cases fits : s.formattedLength ≤ 1024
  · have formats : s.Formats := ⟨whole.accepted, fits⟩
    by_cases nothing : s.standardParams.entries = []
    · have noCustom := whole.inhabited nothing
      have written : s.URL order = s.urlType.scheme := by
        have noStandard := order.standard.perm s.standardParams.entries
        have noFields := order.custom.perm s.customParams.entries
        rw [nothing] at noStandard
        rw [noCustom] at noFields
        rw [URL_eq_render formats, nothing, noCustom, noStandard.eq_nil, noFields.eq_nil]
        exact List.append_nil _
      rw [written, newStationURL_scheme whole.known]
      refine ⟨rfl, ?_, ?_⟩
      · rw [nothing]
        exact List.Perm.refl _
      · rw [noCustom]
        exact List.Perm.refl _
    · exact newStationURL_URL whole.known nothing whole.plain formats order
  · rw [URL_of_accepted whole.accepted, if_pos (Nat.lt_of_not_le fits), whole.reread]
    exact sameParams_refl s

theorem Whole.copy {s : StationURL} (whole : Whole s) (order : Iteration) :
    Whole (s.copy order) := by
  have same := whole.copy_sameParams order
  refine ⟨?_, newStationURL_plain _, ?_, ?_, ?_⟩
  · rw [same.urlType]
    exact whole.known
  · intro field member
    exact whole.accepted field (same.standard.mem_iff.mp member)
  · intro empty
    have noStandard := same.standard
    have custom := same.custom
    rw [empty] at noStandard
    rw [whole.inhabited noStandard.nil_eq.symm] at custom
    exact custom.eq_nil
  · unfold StationURL.copy
    rw [newStationURL_url]

/-! ### Moving a station -/

/-- The moved station fits, or the station is already there. -/
def MovesExactly (s : StationURL) (address : Bytes) (port : UInt16) : Prop :=
  ((s.setAddress address).setPortNumber port).formattedLength ≤ 1024 ∨
    (s.address = some address ∧ s.portNumber = some port)

instance (s : StationURL) (address : Bytes) (port : UInt16) :
    Decidable (MovesExactly s address port) :=
  inferInstanceAs (Decidable (_ ∨ _))

theorem paramValue_moved (s : StationURL) (address : Bytes) (port : UInt16) {name : Bytes}
    (notAddress : name ≠ ascii "address") (notPort : name ≠ ascii "port") :
    ((s.setAddress address).setPortNumber port).paramValue name = s.paramValue name := by
  unfold StationURL.setPortNumber StationURL.setAddress
  rw [paramValue_setParamValue_ne _ _ notPort, paramValue_setParamValue_ne _ _ notAddress]

theorem readsMoved_of_sameParams {s : StationURL} {address text : Bytes} {port : UInt16}
    (same : (newStationURL text).SameParams ((s.setAddress address).setPortNumber port)) :
    ReadsMoved s address port text where
  address := (same.paramValue_eq (ascii "address")).trans (address_setPortNumber s address port)
  portNumber := same.portNumber_eq.trans (portNumber_setPortNumber _ port)
  urlType := same.urlType
  standard name notAddress notPort :=
    (same.paramValue_eq name).trans (paramValue_moved s address port notAddress notPort)
  custom _ := AList.perm_lookup same.custom

/-- **Moving a station.** The written text reads as the moved station exactly if
the moved station fits or there was nothing to move. -/
theorem Whole.readsMoved_iff {s : StationURL} (whole : Whole s) {address : Bytes}
    (short : address.length ≤ 256) (noSemicolon : 59 ∉ address) (noHash : 35 ∉ address)
    (port : UInt16) (order : Iteration) :
    ReadsMoved s address port (((s.setAddress address).setPortNumber port).URL order) ↔
      MovesExactly s address port := by
  by_cases fits : ((s.setAddress address).setPortNumber port).formattedLength ≤ 1024
  · refine ⟨fun _ => Or.inl fits, fun _ => readsMoved_of_sameParams ?_⟩
    exact newStationURL_setPortNumber short noSemicolon noHash whole.known whole.plain port fits
      order
  · have kept : ((s.setAddress address).setPortNumber port).URL order = s.url := by
      rw [URL_of_accepted (accepted_setPortNumber short port), if_pos (Nat.lt_of_not_le fits)]
      rfl
    rw [kept]
    constructor
    · intro moved
      have there := moved.address
      have port := moved.portNumber
      rw [whole.reread] at there port
      exact Or.inr ⟨there, port⟩
    · intro exactly
      obtain ⟨there, port⟩ := exactly.resolve_left fits
      refine ⟨?_, ?_, ?_, ?_, ?_⟩
      · rw [whole.reread]
        exact there
      · rw [whole.reread]
        exact port
      · rw [whole.reread]
      · intro name notAddress notPort
        rw [whole.reread]
      · intro name
        rw [whole.reread]

/-- The address and the port alone need no complete text. -/
theorem MovesExactly.read {text address : Bytes} {port : UInt16}
    (moves : MovesExactly (newStationURL text) address port)
    (known : (newStationURL text).urlType ≠ .unknown) (short : address.length ≤ 256)
    (noSemicolon : 59 ∉ address) (noHash : 35 ∉ address) (order : Iteration) :
    (newStationURL
        ((((newStationURL text).setAddress address).setPortNumber port).URL order)).address =
          some address ∧
      (newStationURL
        ((((newStationURL text).setAddress address).setPortNumber port).URL order)).portNumber =
          some port := by
  by_cases fits :
      (((newStationURL text).setAddress address).setPortNumber port).formattedLength ≤ 1024
  · have same := newStationURL_setPortNumber short noSemicolon noHash known
      (newStationURL_plain text) port fits order
    constructor
    · exact (same.paramValue_eq (ascii "address")).trans (address_setPortNumber _ address port)
    · exact same.portNumber_eq.trans (portNumber_setPortNumber _ port)
  · have kept : (((newStationURL text).setAddress address).setPortNumber port).URL order =
        (newStationURL text).url := by
      rw [URL_of_accepted (accepted_setPortNumber short port), if_pos (Nat.lt_of_not_le fits)]
      rfl
    rw [kept, newStationURL_url]
    exact moves.resolve_left fits

theorem MovesExactly.congr {s t : StationURL} (same : s.SameParams t) (address : Bytes)
    (port : UInt16) : MovesExactly s address port ↔ MovesExactly t address port := by
  have moved := (same.setParamValue (ascii "address") address).setParamValue (ascii "port")
    (formatUint port.toNat)
  have length : ((s.setAddress address).setPortNumber port).formattedLength =
      ((t.setAddress address).setPortNumber port).formattedLength := moved.formattedLength_eq
  have there : s.address = t.address := same.paramValue_eq (ascii "address")
  unfold MovesExactly
  rw [length, there, same.portNumber_eq]

theorem ReadsMoved.congr {s t : StationURL} (same : s.SameParams t) (address : Bytes)
    (port : UInt16) (text : Bytes) :
    ReadsMoved s address port text ↔ ReadsMoved t address port text := by
  have custom : ∀ name, s.customParams.lookup name = t.customParams.lookup name :=
    fun _ => AList.perm_lookup same.custom
  constructor
  · intro reads
    exact ⟨reads.address, reads.portNumber, reads.urlType.trans same.urlType,
      fun name notAddress notPort =>
        (reads.standard name notAddress notPort).trans (same.paramValue_eq name),
      fun name => (reads.custom name).trans (custom name)⟩
  · intro reads
    exact ⟨reads.address, reads.portNumber, reads.urlType.trans same.urlType.symm,
      fun name notAddress notPort =>
        (reads.standard name notAddress notPort).trans (same.paramValue_eq name).symm,
      fun name => (reads.custom name).trans (custom name).symm⟩

/-- The same for a station that is copied before it is moved. -/
theorem Whole.copy_readsMoved_iff {s : StationURL} (whole : Whole s) {address : Bytes}
    (short : address.length ≤ 256) (noSemicolon : 59 ∉ address) (noHash : 35 ∉ address)
    (port : UInt16) (copied written : Iteration) :
    ReadsMoved s address port
        ((((s.copy copied).setAddress address).setPortNumber port).URL written) ↔
      MovesExactly s address port := by
  have same := whole.copy_sameParams copied
  rw [← ReadsMoved.congr same, ← MovesExactly.congr same]
  exact (whole.copy copied).readsMoved_iff short noSemicolon noHash port written

end CommunityServers.Station
