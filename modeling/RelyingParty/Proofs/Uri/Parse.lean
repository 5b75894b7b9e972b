import RelyingParty.Proofs.Text.Number
import RelyingParty.Proofs.Uri.Tail
import RelyingParty.Realm

/-! A URI is read off its parts: the scheme, the user information, the host part, and what stands
behind them. -/

namespace RelyingParty

namespace Scheme

/-- A name has the form of a scheme whatever its case. -/
theorem isName_asciiLower (name : Text) : isName (Text.asciiLower name) = isName name := by
  -- Neither letters nor the three signs change their kind with their case.
  have sign : ∀ c : Char, (c.toLower.isAlphanum || c.toLower = '+' || c.toLower = '-' ||
      c.toLower = '.') = (c.isAlphanum || c = '+' || c = '-' || c = '.') :=
    Text.toLower_induction (p := fun c d => (d.isAlphanum || d = '+' || d = '-' || d = '.') =
      (c.isAlphanum || c = '+' || c = '-' || c = '.')) (fun _ => rfl) (by decide +kernel)
  cases name with
  | nil => rfl
  | cons c rest =>
    show (c.toLower.isAlpha && (rest.map Char.toLower).all _) = _
    rw [Text.isAlpha_toLower, List.all_map, isName]
    congr 1
    exact congrArg rest.all (funext sign)

/-- The name of a known scheme has the form of one. -/
theorem isName_of_ofText? {name : Text} {scheme : Scheme} (known : ofText? name = some scheme) :
    isName name = true := by
  -- Both known names are names.
  rw [← isName_asciiLower]
  unfold ofText? at known
  split at known
  · rename_i same
    rw [same]
    decide
  split at known
  · rename_i same
    rw [same]
    decide
  · cases known

/-- The name of a scheme has no mark. -/
theorem not_mem_of_isName {mark : Char}
    (other : (mark.isAlphanum || mark = '+' || mark = '-' || mark = '.') = false) {name : Text}
    (form : isName name = true) : mark ∉ name := by
  -- The first character is a letter, and each other one a letter, a digit or a sign.
  cases name with
  | nil => exact List.not_mem_nil
  | cons c rest =>
    simp only [isName, Bool.and_eq_true, List.all_eq_true] at form
    intro inside
    rcases List.mem_cons.mp inside with rfl | later
    · simp [Char.isAlphanum, form.1] at other
    · rw [form.2 mark later] at other
      cases other

/-- The name of a known scheme ends at the first colon. -/
theorem colon_not_mem_of_ofText? {name : Text} {scheme : Scheme}
    (known : ofText? name = some scheme) : ':' ∉ name :=
  not_mem_of_isName (by decide) (isName_of_ofText? known)

/-- A scheme is read back from the way it is written. -/
theorem ofText?_text (scheme : Scheme) : ofText? scheme.text = some scheme := by
  cases scheme with
  | http => rfl
  | https => rfl

end Scheme

namespace Uri

/-- A text is read when it is printable and names a known scheme, and what follows is read in
canonical form. -/
theorem parse_eq_ok_iff {text : Text} {uri : Uri} :
    parse text = .ok uri ↔ (∀ c ∈ text, isGraphic c = true) ∧
      ∃ name rest scheme canonical, text = name ++ "://" ++ rest ∧
        Scheme.ofText? name = some scheme ∧ canonicalEscapes? rest = some canonical ∧
        ofHierarchy scheme canonical = .ok uri := by
  constructor
  · intro read
    -- Each step that refuses the text contradicts the reading.
    cases graphic : text.all isGraphic with
    | false =>
      simp only [parse, graphic] at read
      cases read
    | true =>
    cases first : Text.splitFirst ':' text with
    | none =>
      simp only [parse, graphic, first] at read
      cases read
    | some parts =>
    obtain ⟨name, rest⟩ := parts
    cases form : Scheme.isName name with
    | false =>
      simp only [parse, graphic, first, form] at read
      cases read
    | true =>
    cases known : Scheme.ofText? name with
    | none =>
      simp only [parse, graphic, first, form, known] at read
      cases read
    | some scheme =>
    cases slashes : Text.dropStart? "//" rest with
    | none =>
      simp only [parse, graphic, first, form, known, slashes] at read
      cases read
    | some rest' =>
    cases escapes : canonicalEscapes? rest' with
    | none =>
      simp only [parse, graphic, first, form, known, slashes, escapes] at read
      cases read
    | some canonical =>
      simp only [parse, graphic, first, form, known, slashes, escapes] at read
      -- All steps have passed, so the text is put together from what they have cut.
      obtain ⟨rfl, _⟩ := Text.splitFirst_eq_some_iff.mp first
      obtain rfl := Text.dropStart?_eq_some_iff.mp slashes
      exact ⟨List.all_eq_true.mp graphic, name, rest', scheme, canonical, by simp, known, escapes,
        read⟩
  · rintro ⟨graphic, name, rest, scheme, canonical, rfl, known, escapes, read⟩
    -- Conversely every step passes, the colon being the first one as no scheme has any.
    have all : (name ++ "://" ++ rest).all isGraphic = true := List.all_eq_true.mpr graphic
    have form := Scheme.isName_of_ofText? known
    have first := splitFirst_scheme (Scheme.colon_not_mem_of_ofText? known) rest
    have slashes : Text.dropStart? "//" ('/' :: '/' :: rest) = some rest := rfl
    simp only [parse, all, first, form, known, slashes, escapes, read]
    rfl

/-- A text is read with the name in front of its first colon. -/
theorem parse_append_eq_ok_iff {name : Text} (colon : ':' ∉ name) {rest : Text} {uri : Uri} :
    parse (name ++ "://" ++ rest) = .ok uri ↔ (∀ c ∈ name ++ "://" ++ rest, isGraphic c = true) ∧
      ∃ scheme canonical, Scheme.ofText? name = some scheme ∧
        canonicalEscapes? rest = some canonical ∧ ofHierarchy scheme canonical = .ok uri := by
  rw [parse_eq_ok_iff, and_congr_right_iff]
  rintro -
  constructor
  · rintro ⟨name', rest', scheme, canonical, same, known, escapes, read⟩
    -- The other name has no colon either.
    have colon' := Scheme.colon_not_mem_of_ofText? known
    have first := splitFirst_scheme colon rest
    rw [same, splitFirst_scheme colon'] at first
    cases first
    exact ⟨scheme, canonical, known, escapes, read⟩
  · rintro ⟨scheme, canonical, known, escapes, read⟩
    exact ⟨name, rest, scheme, canonical, rfl, known, escapes, read⟩

/-- A written port has no mark of the authority and no triplet, is printable, and has no case. -/
theorem plain_of_mem_marked {port : Option Nat} {c : Char}
    (inside : c ∈ Text.marked ':' (port.map Text.ofNat)) :
    endsAuthority c = false ∧ c ≠ '@' ∧ c ≠ '%' ∧ isGraphic c = true ∧ c.toLower = c := by
  -- The colon is looked at on its own, and the digits are unreserved characters.
  cases port with
  | none => cases inside
  | some n =>
    rcases List.mem_cons.mp inside with rfl | member
    · decide
    · have digit := Text.isDigit_of_mem_ofNat member
      have unreserved : isUnreserved c = true := by simp [isUnreserved, Char.isAlphanum, digit]
      exact isUnreserved_induction (p := fun c => c.isDigit = true → endsAuthority c = false ∧
        c ≠ '@' ∧ c ≠ '%' ∧ isGraphic c = true ∧ c.toLower = c) (by decide +kernel) unreserved digit

/-- A written port behind a host part is in the authority too. -/
theorem HostCut.append_port {name host behind : Text} {userinfo : Option Text}
    (cut : HostCut name userinfo host behind) (port : Option Nat) :
    HostCut name userinfo (host ++ Text.marked ':' (port.map Text.ofNat)) behind where
  colon := cut.colon
  info := cut.info
  within c inside := by
    -- A character is from the host, or from the port behind it.
    rcases List.mem_append.mp inside with early | late
    · exact cut.within c early
    · exact (plain_of_mem_marked late).1
  sign inside := by
    rcases List.mem_append.mp inside with early | late
    · exact cut.sign early
    · exact (plain_of_mem_marked late).2.1 rfl
  ends := cut.ends

/-- The canonical form of an authority is within an authority too. -/
theorem canonicalEscapes?_within {authority canonical : Text}
    (read : canonicalEscapes? authority = some canonical)
    (within : ∀ c ∈ authority, endsAuthority c = false) :
    ∀ c ∈ canonical, endsAuthority c = false := by
  -- Canonical triplets make no mark that was not there.
  intro c inside
  refine eq_false_of_ne_true fun ends => ?_
  have absent : c ∉ authority := fun member => by
    rw [within c member] at ends
    cases ends
  exact not_mem_of_canonicalEscapes? (isMark_of_endsAuthority ends) read absent inside

/-- User information and host part are read on their own. -/
theorem canonicalEscapes?_signed_append {userinfo : Option Text} {host canonical : Text} :
    canonicalEscapes? (signed userinfo ++ host) = some canonical ↔
      ∃ userinfo' host', canonicalEscapes? (signed userinfo) = some (signed userinfo') ∧
        canonicalEscapes? host = some host' ∧ canonical = signed userinfo' ++ host' := by
  constructor
  · intro read
    cases userinfo with
    | none => exact ⟨none, canonical, rfl, read, rfl⟩
    | some info =>
      -- The at sign is a mark, so it stays behind the canonical user information.
      have whole : signed (some info) ++ host = info ++ '@' :: host := by simp [signed]
      rw [whole, canonicalEscapes?_append_mark rfl] at read
      obtain ⟨info', first, rest⟩ := Option.bind_eq_some_iff.mp read
      obtain ⟨host', last, rfl⟩ := Option.map_eq_some_iff.mp rest
      have kept : canonicalEscapes? (signed (some info)) = some (signed (some info')) := by
        rw [signed, canonicalEscapes?_append_mark rfl, first]
        rfl
      exact ⟨some info', host', kept, last, by simp [signed]⟩
  · -- Forms of two parts are put together.
    rintro ⟨userinfo', host', first, last, rfl⟩
    rw [canonicalEscapes?_append first, last]
    rfl

/-- The canonical forms of the parts of a text are cut at the same marks. -/
theorem HostCut.canonical {name host behind host' behind' : Text} {userinfo userinfo' : Option Text}
    (cut : HostCut name userinfo host behind)
    (info : canonicalEscapes? (signed userinfo) = some (signed userinfo'))
    (part : canonicalEscapes? host = some host') (back : canonicalEscapes? behind = some behind') :
    HostCut name userinfo' host' behind' := by
  -- Reading brings no mark in, and keeps the ones that are there.
  have authority : canonicalEscapes? (signed userinfo ++ host) = some (signed userinfo' ++ host') :=
    canonicalEscapes?_signed_append.mpr ⟨userinfo', host', info, part, rfl⟩
  refine .of_within cut.colon (canonicalEscapes?_within authority cut.authority_within) ?_ ?_
  · exact not_mem_of_canonicalEscapes? rfl part cut.sign
  · rw [head?_of_canonicalEscapes? cut.isMark_of_head? back]
    exact cut.ends

/-- The parts of a cut text are read on their own. -/
theorem HostCut.canonicalEscapes?_eq_some_iff {name host behind canonical : Text}
    {userinfo : Option Text} (cut : HostCut name userinfo host behind) :
    canonicalEscapes? (signed userinfo ++ host ++ behind) = some canonical ↔
      ∃ userinfo' host' behind', canonicalEscapes? (signed userinfo) = some (signed userinfo') ∧
        canonicalEscapes? host = some host' ∧ canonicalEscapes? behind = some behind' ∧
        canonical = signed userinfo' ++ host' ++ behind' := by
  -- What stands behind the host begins with a mark, or is empty.
  rw [canonicalEscapes?_append_of_head cut.isMark_of_head?]
  constructor
  · intro read
    obtain ⟨authority, front, rest⟩ := Option.bind_eq_some_iff.mp read
    obtain ⟨behind', back, rfl⟩ := Option.map_eq_some_iff.mp rest
    obtain ⟨userinfo', host', info, part, rfl⟩ := canonicalEscapes?_signed_append.mp front
    exact ⟨userinfo', host', behind', info, part, back, rfl⟩
  · rintro ⟨userinfo', host', behind', info, part, back, rfl⟩
    rw [canonicalEscapes?_signed_append.mpr ⟨userinfo', host', info, part, rfl⟩, back]
    rfl

/-- The URI with the given parts in front of a path, a query and a fragment. -/
def assembled (scheme : Scheme) (userinfo : Option Text) (host : Text) (port : Option Nat)
    (behind : Text) : Uri :=
  let (text, fragment) := Text.cutTail '#' behind
  let (text, query) := Text.cutTail '?' text
  { scheme
    userinfo
    host := Text.asciiLower host
    port := port.filter (· ≠ scheme.defaultPort)
    path := normalPath text
    query
    fragment }

/-- The parts behind an authority are those of the URI, with its dots taken out of the path. -/
theorem TailCut.assembled_eq {path : Text} {query fragment : Option Text}
    (cut : TailCut path query fragment) (scheme : Scheme) (userinfo : Option Text) (host : Text)
    (port : Option Nat) :
    assembled scheme userinfo host port (tail path query fragment) =
      { scheme
        userinfo
        host := Text.asciiLower host
        port := port.filter (· ≠ scheme.defaultPort)
        path := normalPath path
        query
        fragment } := by
  -- Query and fragment are cut off again where they were put.
  obtain ⟨first, second⟩ := cut.cutTail_eq
  simp only [assembled, first, second]

/-- A cut text is read as a host and a port with what stands around them. -/
theorem HostCut.ofHierarchy_eq {name host behind : Text} {userinfo : Option Text}
    (cut : HostCut name userinfo host behind) (scheme : Scheme) :
    ofHierarchy scheme (signed userinfo ++ host ++ behind) =
      match hostPort? host with
      | none => .error .badPort
      | some (host, port) =>
        if host = [] then .error .noHost else .ok (assembled scheme userinfo host port behind) := by
  -- Neither tail is cut within the authority, and the path begins where it ends.
  have within := cut.authority_within
  have fragment : '#' ∉ signed userinfo ++ host := not_mem_of_within within rfl
  have query : '?' ∉ signed userinfo ++ host := not_mem_of_within within rfl
  have slash : '/' ∉ signed userinfo ++ host := not_mem_of_within within rfl
  have kept : ∀ c ∈ signed userinfo ++ host, decide (c ≠ '/') = true :=
    fun c inside => decide_eq_true fun same => slash (same ▸ inside)
  obtain ⟨path, query', fragment', rfl, tailCut⟩ := exists_tailCut cut.ends
  obtain ⟨first, second⟩ := tailCut.cutTail_eq
  obtain ⟨nothing, rest⟩ := takeWhile_path tailCut.starts
  have parts : splitUserinfo (signed userinfo ++ host) = (userinfo, host) :=
    splitUserinfo_eq_iff.mpr ⟨rfl, cut.sign⟩
  simp only [ofHierarchy, Text.cutTail_append fragment, Text.cutTail_append query,
    List.takeWhile_append_of_pos kept, List.dropWhile_append_of_pos kept, nothing, rest,
    List.append_nil, parts, first, second]
  -- Without a host or a number for its port both sides refuse.
  cases hostPort? host with
  | none => rfl
  | some parts =>
    obtain ⟨host, port⟩ := parts
    by_cases empty : host = []
    · simp only [if_pos empty]
      rfl
    · simp only [if_neg empty, tailCut.assembled_eq]
      rfl

/-- How the parts of a cut text are read: the scheme is known, the other parts have canonical forms,
and there is a host, with a port or without, in the host part. -/
inductive ReadOff (name : Text) (userinfo : Option Text) (host behind : Text) : Uri → Prop
  | parts {scheme : Scheme} {userinfo' : Option Text} {host' behind' written : Text}
    {port : Option Nat} (known : Scheme.ofText? name = some scheme)
    (info : canonicalEscapes? (signed userinfo) = some (signed userinfo'))
    (part : canonicalEscapes? host = some host') (back : canonicalEscapes? behind = some behind')
    (found : hostPort? host' = some (written, port)) (nonempty : written ≠ []) :
    ReadOff name userinfo host behind (assembled scheme userinfo' written port behind')

/-- The heading of a text is the name of its scheme with two slashes, and the user information. -/
theorem heading_append (name : Text) (userinfo : Option Text) (host behind : Text) :
    heading name userinfo ++ host ++ behind =
      name ++ "://" ++ (signed userinfo ++ host ++ behind) := by
  simp [heading]

/-- A cut text is read when it is printable and its parts are. -/
theorem HostCut.parse_eq_ok_iff {name host behind : Text} {userinfo : Option Text} {uri : Uri}
    (cut : HostCut name userinfo host behind) :
    parse (heading name userinfo ++ host ++ behind) = .ok uri ↔
      (∀ c ∈ heading name userinfo ++ host ++ behind, isGraphic c = true) ∧
        ReadOff name userinfo host behind uri := by
  rw [heading_append, parse_append_eq_ok_iff cut.colon, and_congr_right_iff]
  rintro -
  constructor
  · -- The canonical form is cut at the same marks, and its host part decides.
    rintro ⟨scheme, canonical, known, escapes, read⟩
    obtain ⟨userinfo', host', behind', info, part, back, rfl⟩ :=
      cut.canonicalEscapes?_eq_some_iff.mp escapes
    rw [(cut.canonical info part back).ofHierarchy_eq] at read
    split at read
    · cases read
    split at read
    · cases read
    · rename_i written port found nonempty
      cases read
      exact .parts known info part back found nonempty
  · rintro ⟨known, info, part, back, found, nonempty⟩
    -- Conversely the canonical parts are put together, and are cut at the same marks again.
    refine ⟨_, _, known,
      cut.canonicalEscapes?_eq_some_iff.mpr ⟨_, _, _, info, part, back, rfl⟩, ?_⟩
    rw [(cut.canonical info part back).ofHierarchy_eq, found]
    exact if_neg nonempty

/-- Every text that is read has a cut. -/
theorem exists_cut_of_parse {text : Text} {uri : Uri} (read : parse text = .ok uri) :
    ∃ name userinfo host behind, text = heading name userinfo ++ host ++ behind ∧
      HostCut name userinfo host behind := by
  -- A known scheme has two slashes behind it, which is all that the cut asks for.
  obtain ⟨_, name, rest, scheme, _, rfl, known, _⟩ := parse_eq_ok_iff.mp read
  have colon := Scheme.colon_not_mem_of_ofText? known
  have slashes : Text.dropStart? "//" ('/' :: '/' :: rest) = some rest := rfl
  obtain ⟨front, host, behind, cut⟩ : ∃ front host behind,
      cutHost? (name ++ "://" ++ rest) = some (front, host, behind) := by
    simp only [cutHost?, splitFirst_scheme colon, slashes, Option.bind_eq_bind, Option.bind_some,
      Option.pure_def]
    exact ⟨_, _, _, rfl⟩
  obtain ⟨name', userinfo, rfl, whole, parts⟩ := cutHost?_eq_some_iff.mp cut
  exact ⟨name', userinfo, host, behind, whole, parts⟩

/-- The path, with query and fragment, of what stands behind an authority. -/
def pathBehind (behind : Text) : Text :=
  let (text, fragment) := Text.cutTail '#' behind
  let (text, query) := Text.cutTail '?' text
  let path := removeDotSegments text
  (if path = [] then ['/'] else path) ++ Locator.trailing '?' query ++ Locator.trailing '#' fragment

/-- The host of a URI is that of its host part, and its path that of what stands behind it. -/
theorem parse_heading_eq_ok {scheme host behind : Text} {userinfo : Option Text} {uri : Uri}
    (cut : HostCut scheme userinfo host behind)
    (read : parse (heading scheme userinfo ++ host ++ behind) = .ok uri) :
    Scheme.isName scheme = true ∧ ∃ canonical after name port,
      canonicalEscapes? host = some canonical ∧ canonicalEscapes? behind = some after ∧
      hostPort? canonical = some (name, port) ∧ uri.host = Text.asciiLower name ∧
      uri.locator.path = pathBehind after := by
  -- Host and path are read off the canonical forms of their parts.
  obtain ⟨_, known, _, part, back, found, _⟩ := cut.parse_eq_ok_iff.mp read
  exact ⟨Scheme.isName_of_ofText? known, _, _, _, _, part, back, found, rfl, rfl⟩

end Uri

end RelyingParty
