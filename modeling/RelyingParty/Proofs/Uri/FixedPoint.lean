import RelyingParty.Proofs.Uri.Parse
import RelyingParty.Proofs.Uri.Port

/-! A normal form is read back as itself, unless its host takes a colon for that of a port. -/

namespace RelyingParty.Uri

open Text (marked)

/-- The host part of a normal form. -/
def hostText (uri : Uri) : Text := uri.host ++ marked ':' (uri.port.map Text.ofNat)

/-- What is left of every text that is read: its parts are where their marks cut them, in canonical
form and lower case, and without dots or a usual port. -/
structure IsNormal (uri : Uri) : Prop where
  /-- All characters are printable. -/
  graphic : ∀ c ∈ uri.render, isGraphic c = true
  /-- The marks of the authority are where they cut it. -/
  cut : HostCut uri.scheme.text uri.userinfo uri.hostText (tail uri.path uri.query uri.fragment)
  /-- So are those behind it. -/
  tailCut : TailCut uri.path uri.query uri.fragment
  /-- No dots are left in the path. -/
  path : normalPath uri.path = uri.path
  /-- The user information is canonical. -/
  info : canonicalEscapes? (signed uri.userinfo) = some (signed uri.userinfo)
  /-- Path, query and fragment are canonical. -/
  behind : canonicalEscapes? (tail uri.path uri.query uri.fragment) =
    some (tail uri.path uri.query uri.fragment)
  /-- The host is a canonical form in lower case. -/
  host : (canonicalEscapes? uri.host).map Text.asciiLower = some uri.host
  /-- There is a host. -/
  nonempty : uri.host ≠ []
  /-- A host that begins with a bracket is in brackets. -/
  bracketed : uri.host.head? = some '[' → IsBracketed uri.host
  /-- A port is one that has to be written. -/
  port : ∀ n ∈ uri.port, n < 65536 ∧ n ≠ uri.scheme.defaultPort

/-- A URI is written as its parts one after the other. -/
theorem render_eq (uri : Uri) :
    uri.render = heading uri.scheme.text uri.userinfo ++ uri.hostText ++
      tail uri.path uri.query uri.fragment := by
  -- Every part that may be missing is written or left out, with its mark.
  obtain ⟨scheme, userinfo, host, port, path, query, fragment⟩ := uri
  cases userinfo <;> cases port <;> cases query <;> cases fragment <;>
    simp [render, heading, signed, hostText, tail, marked]

/-- A port that is read is below the bound. -/
theorem lt_of_portNumber? {port : Option Text} {number : Option Nat}
    (read : portNumber? port = some number) : ∀ n ∈ number, n < 65536 := by
  -- An empty port is none, and a number is read only below the bound.
  rintro n ⟨⟩
  cases port with
  | none => cases read
  | some text =>
    cases text with
    | nil => cases read
    | cons c rest =>
      obtain ⟨m, found, same⟩ := Option.map_eq_some_iff.mp read
      cases same
      unfold Text.natBelow? at found
      simpa using (Option.filter_eq_some_iff.mp found).2

/-- The host that is read is a canonical form in lower case. -/
theorem canonical_written {host host' written : Text} {port : Option Text}
    (part : canonicalEscapes? host = some host') (whole : host' = written ++ marked ':' port) :
    (canonicalEscapes? (Text.asciiLower written)).map Text.asciiLower =
      some (Text.asciiLower written) := by
  -- The host is in front of a mark, so it is canonical on its own.
  have canonical := canonicalEscapes?_canonical part
  rw [whole, canonical_append_iff (isMark_of_head?_marked rfl port)] at canonical
  rw [canonicalEscapes?_asciiLower, canonical.1]
  rfl

/-- The host that is read is in an authority, in lower case and with a port behind it. -/
theorem HostCut.lower {name host behind written behind' : Text} {userinfo : Option Text}
    (cut : HostCut name userinfo host behind) (inside : ∀ c ∈ written, c ∈ host) (scheme : Scheme)
    (ends : ∀ c ∈ behind'.head?, endsAuthority c = true) (port : Option Nat) :
    HostCut scheme.text userinfo
      (Text.asciiLower written ++ marked ':' (port.map Text.ofNat)) behind' := by
  -- What is written is a part of the host that was cut, and neither case nor digits make a mark.
  have colon := Scheme.colon_not_mem_of_ofText? (Scheme.ofText?_text scheme)
  have part : HostCut scheme.text userinfo written behind' :=
    ⟨colon, cut.info, fun c member => cut.within c (inside c member),
      fun member => cut.sign (inside _ member), ends⟩
  exact (part.of_asciiLower_eq (Text.asciiLower_asciiLower written)).append_port port

/-- What is written of printable parts is printable. -/
theorem isGraphic_render {uri : Uri} (info : ∀ c ∈ signed uri.userinfo, isGraphic c = true)
    (host : ∀ c ∈ uri.host, isGraphic c = true)
    (behind : ∀ c ∈ tail uri.path uri.query uri.fragment, isGraphic c = true) :
    ∀ c ∈ uri.render, isGraphic c = true := by
  -- Each character is from the scheme and its slashes or from one of the parts.
  have scheme : (uri.scheme.text ++ "://").all isGraphic = true := by
    cases uri.scheme with
    | http => decide
    | https => decide
  rw [render_eq, heading, hostText]
  intro c inside
  rcases List.mem_append.mp inside with early | late
  · rcases List.mem_append.mp early with front | part
    · rcases List.mem_append.mp front with first | second
      · exact List.all_eq_true.mp scheme c first
      · exact info c second
    · rcases List.mem_append.mp part with name | port
      · exact host c name
      · exact (plain_of_mem_marked port).2.2.2.1
  · exact behind c late

/-- The parts of a text are normal when they are read. -/
theorem ReadOff.isNormal {name host behind : Text} {userinfo : Option Text} {uri : Uri}
    (cut : HostCut name userinfo host behind)
    (graphic : ∀ c ∈ heading name userinfo ++ host ++ behind, isGraphic c = true)
    (read : ReadOff name userinfo host behind uri) : uri.IsNormal := by
  obtain @⟨scheme, userinfo', host', behind', written, port, known, info, part, back, found,
    nonempty⟩ := read
  have cut' := cut.canonical info part back
  obtain ⟨path, query, fragment, rfl, tailCut⟩ := exists_tailCut cut'.ends
  obtain ⟨portText, split, valid⟩ := hostPort?_eq_some_iff.mp found
  obtain ⟨whole, _⟩ := splitPort?_eq_some_iff.mp split
  have inside : ∀ c ∈ written, c ∈ host' := fun c member => by
    rw [whole]
    exact List.mem_append_left _ member
  -- The parts of the normal form are those of the canonical forms, the dots of the path resolved.
  rw [tailCut.assembled_eq]
  refine ⟨?_, cut'.lower inside scheme tailCut.normal.ends _, tailCut.normal,
    normalPath_normalPath tailCut.starts, canonicalEscapes?_canonical info,
    tailCut.canonical_normal (canonicalEscapes?_canonical back), canonical_written part whole,
    by simpa [Text.asciiLower] using nonempty, ?_, ?_⟩
  · -- Canonical forms and lower case of printable parts are printable.
    obtain ⟨before, last⟩ := List.forall_mem_append.mp graphic
    obtain ⟨front, middle⟩ := List.forall_mem_append.mp before
    obtain ⟨_, first⟩ := List.forall_mem_append.mp front
    refine isGraphic_render (isGraphic_of_canonicalEscapes? info first) ?_ ?_
    · intro c member
      obtain ⟨d, written, rfl⟩ := List.mem_map.mp member
      rw [Text.isGraphic_toLower]
      exact isGraphic_of_canonicalEscapes? part middle d (inside d written)
    · intro c member
      rcases tailCut.mem_normal member with rfl | written
      · rfl
      · exact isGraphic_of_canonicalEscapes? back last c written
  · -- The host is cut off in lower case as it was before.
    have lower := splitPort?_asciiLower host'
    rw [split] at lower
    exact isBracketed_of_splitPort? lower
  · intro n known
    obtain ⟨read, differs⟩ := Option.filter_eq_some_iff.mp known
    exact ⟨lt_of_portNumber? valid n read, by simpa using differs⟩

/-- Every URI that is read is in normal form. -/
theorem isNormal_of_parse {text : Text} {uri : Uri} (read : parse text = .ok uri) :
    uri.IsNormal := by
  -- What is read comes from the cut of the text into its parts.
  obtain ⟨name, userinfo, host, behind, rfl, cut⟩ := exists_cut_of_parse read
  obtain ⟨graphic, parts⟩ := cut.parse_eq_ok_iff.mp read
  exact parts.isNormal cut graphic

/-- Whether the colons of a host are told from that of a port: they are in brackets, or a port is
written behind them, or there are none. -/
def TellsPort (uri : Uri) : Prop :=
  uri.port.isSome = true ∨ uri.host.head? = some '[' ∨ ':' ∉ uri.host

/-- A host part is cut where it was written together when host and port are told apart. -/
theorem IsNormal.splitPort?_hostText_iff {uri : Uri} (normal : uri.IsNormal) :
    splitPort? uri.hostText = some (uri.host, uri.port.map Text.ofNat) ↔ uri.TellsPort := by
  rw [hostText, splitPort?_marked_iff normal.bracketed, TellsPort]
  cases uri.port with
  | none => simp
  | some n =>
    -- The digits of the port have no colon.
    have absent : ':' ∉ Text.ofNat n := Text.not_mem_ofNat (by decide) n
    exact iff_of_true (.inr absent) (.inl rfl)

/-- Whoever finds the host in the host part has told it from the port. -/
theorem IsNormal.tellsPort_of_hostPort? {uri : Uri} (normal : uri.IsNormal) {number : Option Nat}
    (found : hostPort? uri.hostText = some (uri.host, number)) : uri.TellsPort := by
  obtain ⟨port, cut, _⟩ := hostPort?_eq_some_iff.mp found
  obtain ⟨whole, _⟩ := splitPort?_eq_some_iff.mp cut
  -- What is behind the host is the port that was written there.
  have same := Text.marked_inj (List.append_cancel_left whole)
  rw [← same] at cut
  exact normal.splitPort?_hostText_iff.mp cut

/-- Host and port are found in the host part when they are told apart. -/
theorem IsNormal.hostPort?_of_tellsPort {uri : Uri} (normal : uri.IsNormal)
    (told : uri.TellsPort) : hostPort? uri.hostText = some (uri.host, uri.port) :=
  hostPort?_eq_some_iff.mpr ⟨_, normal.splitPort?_hostText_iff.mpr told,
    portNumber?_ofNat fun n known => (normal.port n known).1⟩

/-- The host part of a normal form is a canonical form in lower case. -/
theorem IsNormal.exists_canonical {uri : Uri} (normal : uri.IsNormal) :
    ∃ canonical, canonicalEscapes? uri.hostText = some canonical ∧
      Text.asciiLower canonical = uri.hostText := by
  -- Colon and digits of the port have no triplets and no case.
  obtain ⟨host, read, lower⟩ := Option.map_eq_some_iff.mp normal.host
  have absent : '%' ∉ marked ':' (uri.port.map Text.ofNat) :=
    fun inside => (plain_of_mem_marked inside).2.2.1 rfl
  have same : Text.asciiLower (marked ':' (uri.port.map Text.ofNat)) =
      marked ':' (uri.port.map Text.ofNat) :=
    (List.map_congr_left fun c inside => (plain_of_mem_marked inside).2.2.2.2).trans (List.map_id _)
  refine ⟨host ++ marked ':' (uri.port.map Text.ofNat), ?_, ?_⟩
  · rw [hostText, canonicalEscapes?_append read, canonicalEscapes?_of_no_percent absent]
    rfl
  · rw [Text.asciiLower_append, lower, same, hostText]

/-- The host that is read is the one found in the canonical form of the host part. -/
theorem ReadOff.exists_found {name host behind : Text} {userinfo : Option Text} {uri : Uri}
    (read : ReadOff name userinfo host behind uri) :
    ∃ canonical written port, canonicalEscapes? host = some canonical ∧
      hostPort? canonical = some (written, port) ∧ uri.host = Text.asciiLower written := by
  obtain ⟨_, _, part, _, found, _⟩ := read
  exact ⟨_, _, _, part, found, rfl⟩

/-- The host that is read of a normal form is found in its host part. -/
theorem IsNormal.hostPort?_of_parse {uri other : Uri} (normal : uri.IsNormal)
    (read : parse uri.render = .ok other) :
    ∃ port, hostPort? uri.hostText = some (other.host, port) := by
  rw [render_eq, normal.cut.parse_eq_ok_iff] at read
  obtain ⟨canonical, written, port, part, found, same⟩ := read.2.exists_found
  obtain ⟨canonical', part', lower⟩ := normal.exists_canonical
  -- The host part is canonical but for its case, which makes no difference.
  rw [part] at part'
  cases part'
  refine ⟨port, ?_⟩
  rw [← lower, hostPort?_asciiLower, found, same]
  rfl

/-- A normal form is read as the URI it is written of exactly when host and port are told apart. -/
theorem IsNormal.parse_render_iff {uri : Uri} (normal : uri.IsNormal) :
    parse uri.render = .ok uri ↔ uri.TellsPort := by
  constructor
  · -- Reading the normal form again finds its host and port only when they are told apart.
    intro read
    obtain ⟨port, found⟩ := normal.hostPort?_of_parse read
    exact normal.tellsPort_of_hostPort? found
  · intro told
    obtain ⟨canonical, part, lower⟩ := normal.exists_canonical
    -- The canonical form of the host part has the same host, case aside.
    have found := hostPort?_asciiLower canonical
    rw [lower, normal.hostPort?_of_tellsPort told] at found
    obtain ⟨⟨written, port⟩, found', same⟩ := Option.map_eq_some_iff.mp found.symm
    obtain ⟨lower', rfl⟩ := Prod.mk.inj same
    have nonempty : written ≠ [] := fun empty => normal.nonempty (by rw [← lower', empty]; rfl)
    rw [render_eq, normal.cut.parse_eq_ok_iff]
    refine ⟨?_, ?_⟩
    · rw [← render_eq]
      exact normal.graphic
    · -- The parts are put together again as they were.
      have known := Scheme.ofText?_text uri.scheme
      have kept : uri.port.filter (· ≠ uri.scheme.defaultPort) = uri.port := by
        cases written : uri.port with
        | none => rfl
        | some n =>
          exact Option.filter_eq_some_iff.mpr ⟨rfl, by simpa using (normal.port n written).2⟩
      have whole : assembled uri.scheme uri.userinfo written uri.port
          (tail uri.path uri.query uri.fragment) = uri := by
        rw [normal.tailCut.assembled_eq, normal.path, lower', kept]
      have read : ReadOff uri.scheme.text uri.userinfo uri.hostText
        (tail uri.path uri.query uri.fragment) _ :=
        .parts known normal.info part normal.behind found' nonempty
      rwa [whole] at read

/-- A normal form is a fixed point exactly when host and port are told apart: it is read as the URI
it is written of, and normalizes to itself. -/
theorem parse_render_eq_ok_iff {text : Text} {uri : Uri} (read : parse text = .ok uri) :
    (parse uri.render = .ok uri ↔ uri.TellsPort) ∧
      (uri.TellsPort → normalize uri.render = .ok uri.render) := by
  have whole := (isNormal_of_parse read).parse_render_iff
  -- Normalizing is reading and writing, so the second part follows from the first.
  refine ⟨whole, fun told => ?_⟩
  rw [normalize, whole.mpr told]
  rfl

/-- A host with colons in brackets is told from a port that is not written; one that has kept a
colon in front of an empty port loses it when its normal form is read. -/
theorem parse_render_empty_port :
    (∃ uri, parse "HTTP://Me@[::1]:80/a/../%7eb?q#f" = .ok uri ∧
      parse uri.render = .ok uri ∧ normalize uri.render = .ok uri.render) ∧
    ∃ uri, parse "http://host::/" = .ok uri ∧ uri.render = ("http://host:/" : Text) ∧
      parse uri.render ≠ .ok uri ∧ normalize uri.render = .ok "http://host/" := by
  constructor
  · -- The host ends with its bracket, so that no colon behind it is looked for.
    have read : parse "HTTP://Me@[::1]:80/a/../%7eb?q#f" =
        .ok ⟨.http, some "Me", "[::1]", none, "/~b", some "q", some "f"⟩ := by
      decide +kernel
    obtain ⟨whole, text⟩ := parse_render_eq_ok_iff read
    have told : TellsPort ⟨.http, some "Me", "[::1]", none, "/~b", some "q", some "f"⟩ :=
      .inr (.inl rfl)
    exact ⟨_, read, whole.mpr told, text told⟩
  · have read : parse "http://host::/" = .ok ⟨.http, none, "host:", none, "/", none, none⟩ := by
      decide +kernel
    refine ⟨_, read, rfl, fun same => ?_, by decide +kernel⟩
    -- No port is written, and the host has a colon but no bracket.
    rcases (parse_render_eq_ok_iff read).1.mp same with port | bracket | colon
    · cases port
    · exact absurd bracket (by decide)
    · exact absurd colon (by decide)

end RelyingParty.Uri
