import RelyingParty.Proofs.Text.Blank
import RelyingParty.Proofs.Text.Number
import RelyingParty.Proofs.Uri.HostPart
import RelyingParty.Proofs.Url.Host
import RelyingParty.Url

/-! A text is read as a URL of HTTP exactly when it has the scheme and an authority that is read,
whatever stands behind the authority. -/

namespace RelyingParty.Url

/-- Whether a character separates segments in URLs of the web. -/
def isWebSlash (c : Char) : Bool := c = '/' || c = '\\'

/-- The separators are the same for all usual ports. -/
theorem isSlash_web (port : Nat) : (Kind.web port).isSlash = isWebSlash := by
  -- The port takes no part in either test.
  funext c
  simp [Kind.isSlash, isWebSlash]

/-- What stands between the slashes behind a scheme and the path. -/
def authorityOf (rest : Text) : Text := (rest.dropWhile isWebSlash).takeWhile (!isWebSlash ·)

/-- The authority of a text with a scheme. -/
def authority (text : Text) : Text :=
  match (Written.ofText text).scheme? with
  | some (_, rest) => authorityOf rest
  | none => []

/-- The host of an authority and the text of its port. -/
def hostAndPort (authority : Text) : Text × Option Text :=
  splitPort false (Uri.splitUserinfo authority).2

/-- Whether an authority is read: its host and its port are. -/
def Reads (kind : Kind) (authority : Text) : Prop :=
  (∃ host, Host.parse (hostAndPort authority).1 = .ok host) ∧
    ∃ port, portOf kind (hostAndPort authority).2 = .ok port

/-- Whether a scheme is one of HTTP. -/
def IsHttpScheme (scheme : Text) : Prop := scheme = "http" ∨ scheme = "https"

/-- The schemes of HTTP are among those of the web. -/
theorem IsHttpScheme.exists_port {scheme : Text} (http : IsHttpScheme scheme) :
    ∃ port, kindOf scheme = .web port := by
  -- Each of the two schemes has its own usual port.
  rcases http with rfl | rfl
  · exact ⟨80, rfl⟩
  · exact ⟨443, rfl⟩

section Parse

variable {scheme text : Text} {written : Written} {url : Url}

/-- A URL with an authority has the scheme that it was read for. -/
theorem scheme_of_ofAuthority (read : ofAuthority scheme text written = .ok url) :
    url.scheme = scheme := by
  simp only [ofAuthority] at read
  -- The host is read in one of two ways, and what follows is the same.
  split at read <;>
  · obtain ⟨host, _, read⟩ := bind_eq_ok_iff.mp read
    split at read
    · cases read
    · obtain ⟨port, _, read⟩ := bind_eq_ok_iff.mp read
      cases read
      rfl

/-- On the web an authority is what decides whether there is a URL. -/
theorem exists_ofAuthority_iff {port : Nat} (web : kindOf scheme = .web port) (written : Written) :
    (∃ url, ofAuthority scheme text written = .ok url) ↔
      Reads (kindOf scheme) (text.takeWhile (!isWebSlash ·)) := by
  simp only [ofAuthority, web, isSlash_web, reduceCtorEq, if_false, exists_bind_eq_ok_iff]
  constructor
  · rintro ⟨host, own, url, read⟩
    split at read
    · cases read
    · obtain ⟨number, digits, _⟩ := bind_eq_ok_iff.mp read
      exact ⟨⟨host, own⟩, number, digits⟩
  · rintro ⟨⟨host, own⟩, number, digits⟩
    -- A host that is read is never the empty one.
    have there : isNoHost host = false := by simpa [isNoHost] using Host.ne_plain_of_parse own []
    refine ⟨host, own, ?_⟩
    rw [there, Bool.false_and, if_neg Bool.false_ne_true, exists_bind_eq_ok_iff]
    exact ⟨number, digits, _, rfl⟩

/-- A URL has the scheme that it was read for. -/
theorem scheme_of_ofScheme (read : ofScheme scheme text written = .ok url) :
    url.scheme = scheme := by
  -- Every way of reading what follows fills in the scheme that it was given.
  unfold ofScheme at read
  split at read
  · exact scheme_of_ofAuthority read
  · simp only [ofFile] at read
    split at read
    · split at read
      · obtain ⟨host, _, read⟩ := bind_eq_ok_iff.mp read
        cases read
        rfl
      · cases read
        rfl
    · cases read
      rfl
  · split at read
    · exact scheme_of_ofAuthority read
    · cases read
      rfl
    · cases read
      rfl

/-- A text is a URL of HTTP exactly when its scheme is one and its authority is read. -/
theorem exists_parse_iff :
    (∃ url, parse text = .ok url ∧ url.isHttp = true) ↔
      ∃ scheme rest, (Written.ofText text).scheme? = some (scheme, rest) ∧
        IsHttpScheme scheme ∧ Reads (kindOf scheme) (authorityOf rest) := by
  -- For a scheme of HTTP the text behind it is read by its authority alone.
  have known {scheme rest : Text} (http : IsHttpScheme scheme) :
      (∃ url, ofScheme scheme rest (Written.ofText text) = .ok url) ↔
        Reads (kindOf scheme) (authorityOf rest) := by
    obtain ⟨port, web⟩ := http.exists_port
    rw [authorityOf, ← exists_ofAuthority_iff web (Written.ofText text)]
    simp only [ofScheme, web, isSlash_web]
  constructor
  · rintro ⟨url, read, http⟩
    simp only [parse] at read
    split at read
    · rename_i scheme rest given
      -- The scheme that is read is the one that is written.
      have own := scheme_of_ofScheme read
      have named : IsHttpScheme scheme := by simpa [isHttp, own, IsHttpScheme] using http
      exact ⟨scheme, rest, given, named, (known named).mp ⟨url, read⟩⟩
    · cases read
  · rintro ⟨scheme, rest, given, http, reads⟩
    -- Conversely the authority decides, and reading keeps the scheme.
    obtain ⟨url, read⟩ := (known http).mpr reads
    refine ⟨url, by simp [parse, given, read], ?_⟩
    rw [isHttp, scheme_of_ofScheme read]
    simpa [IsHttpScheme] using http

end Parse

section Ends

variable {kind : Kind}

/-- A host and the port behind its colon are all that was cut. -/
theorem eq_append_of_splitPort (bracketed : Bool) (text : Text) :
    text = (splitPort bracketed text).1 ++ Text.marked ':' (splitPort bracketed text).2 := by
  -- The host grows by every character in front of the colon.
  fun_induction splitPort bracketed text with
  | case1 => rfl
  | case2 bracketed c rest colon =>
    simp only [Bool.and_eq_true, decide_eq_true_eq] at colon
    simp [Text.marked, colon.1]
  | case3 bracketed c rest _ host port cut ih =>
    rw [cut] at ih
    rw [ih]
    rfl

/-- A port that is read consists of digits. -/
theorem isDigit_of_portOf {digits : Text} {port : Option Nat}
    (read : portOf kind (some digits) = .ok port) : ∀ c ∈ digits, c.isDigit = true := by
  -- An empty text has no digits, and any other was read as a number.
  cases digits with
  | nil => simp
  | cons c digits =>
    simp only [portOf] at read
    split at read
    · rename_i number found
      exact (Text.digits?_eq_some_iff.mp (Option.filter_eq_some_iff.mp found).1).2.1
    · cases read

/-- An authority that is read ends with its host and its port. -/
theorem Reads.exists_parts {authority : Text} (reads : Reads kind authority) :
    ∃ front hostText portText, authority = front ++ (hostText ++ Text.marked ':' portText) ∧
      (∃ host, Host.parse hostText = .ok host) ∧ ∃ port, portOf kind portText = .ok port := by
  -- User information comes off at the front, and what follows is host and port as they were cut.
  unfold Reads hostAndPort at reads
  cases sign : Uri.splitUserinfo authority with
  | mk userinfo behind =>
    rw [sign] at reads
    obtain ⟨whole, _⟩ := Uri.splitUserinfo_eq_iff.mp sign
    rw [eq_append_of_splitPort false behind] at whole
    exact ⟨_, _, _, whole, reads⟩

/-- No host is read from an empty text. -/
theorem ne_nil_of_parse {hostText : Text} {host : Host} (read : Host.parse hostText = .ok host) :
    hostText ≠ [] := by
  intro empty
  rw [empty] at read
  cases read

/-- An authority that is read is not empty. -/
theorem Reads.ne_nil {authority : Text} (reads : Reads kind authority) : authority ≠ [] := by
  -- Its host is a part of it and not empty.
  obtain ⟨front, hostText, portText, rfl, ⟨host, own⟩, _⟩ := reads.exists_parts
  simp [ne_nil_of_parse own]

/-- An authority that is read does not end in a blank. -/
theorem Reads.lt_of_mem_getLast? {authority : Text} (reads : Reads kind authority) :
    ∀ c ∈ authority.getLast?, ' ' < c := by
  obtain ⟨front, hostText, portText, rfl, ⟨host, own⟩, port, number⟩ := reads.exists_parts
  have nonempty : hostText ++ Text.marked ':' portText ≠ [] := by simp [ne_nil_of_parse own]
  rw [List.getLast?_append_of_ne_nil _ nonempty]
  -- The last character is one of the host, the colon of the port, or a digit behind it.
  cases portText with
  | none =>
    rw [Text.marked, List.append_nil]
    exact Host.lt_of_mem_getLast? own
  | some digits =>
    rw [Text.marked, List.getLast?_append_of_ne_nil _ (List.cons_ne_nil _ _)]
    intro c last
    rcases List.mem_cons.mp (List.mem_of_mem_getLast? last) with rfl | digit
    · decide
    · exact Text.space_lt_of_isDigit (isDigit_of_portOf number c digit)

end Ends

section Slash

/-- Whether a character of a URL is read at all. -/
def isRead (c : Char) : Bool := c ≠ '\t' && c ≠ '\n' && c ≠ '\r'

/-- What is read of a text: no blanks around it, no tabs and no line breaks. -/
def visible (text : Text) : Text := (Text.trimWhere (· ≤ ' ') text).filter isRead

/-- What is read of the blanks at the end of a text, once something stands behind them. -/
def blanksAtEnd (text : Text) : Text :=
  ((text.dropWhile (· ≤ ' ')).rtakeWhile (· ≤ ' ')).filter isRead

variable {text scheme rest : Text}

/-- They are blanks. -/
theorem le_of_mem_blanksAtEnd : ∀ c ∈ blanksAtEnd text, c ≤ ' ' := by
  intro c inside
  -- What is taken from the end is at most a space, whatever is filtered out.
  have blank := List.mem_rtakeWhile_imp (List.mem_filter.mp inside).1
  exact of_decide_eq_true blank

/-- A slash at the end of a text shows the blanks in front of it. -/
theorem visible_slash (text : Text) :
    visible (text ++ ['/']) = visible text ++ (blanksAtEnd text ++ ['/']) := by
  -- The slash is no blank, so only the front of the longer text is trimmed.
  rw [visible, Text.trimWhere_concat (by decide), List.filter_append, List.filter_append,
    List.append_assoc]
  rfl

/-- Query and fragment are cut off what is read of a text. -/
theorem hierarchy_ofText (text : Text) :
    (Written.ofText text).hierarchy = (visible text).takeWhile fun c => c ≠ '?' ∧ c ≠ '#' := by
  -- The fragment is cut first, then the query, and together they end at the first of both marks.
  have head : (Written.ofText text).hierarchy =
      (Text.cutTail '?' (Text.cutTail '#' (visible text)).1).1 := rfl
  rw [head, Text.cutTail_fst, Text.cutTail_fst, List.takeWhile_takeWhile]
  simp

/-- A blank is no mark of a URL. -/
theorem ne_of_mem_blanksAtEnd {mark : Char} (solid : ' ' < mark) {c : Char}
    (inside : c ∈ blanksAtEnd text) : c ≠ mark := by
  -- Blanks are no greater than a space.
  rintro rfl
  exact Char.not_le.mpr solid (le_of_mem_blanksAtEnd c inside)

/-- A slash behind a text adds at most itself, and the blanks in front of it, to what is read. -/
theorem hierarchy_slash (text : Text) :
    (Written.ofText (text ++ ['/'])).hierarchy = (Written.ofText text).hierarchy ∨
      (Written.ofText (text ++ ['/'])).hierarchy =
        (Written.ofText text).hierarchy ++ (blanksAtEnd text ++ ['/']) := by
  -- Neither the blanks nor the slash begin a query or a fragment.
  have kept : (blanksAtEnd text ++ ['/']).takeWhile (fun c => c ≠ '?' ∧ c ≠ '#') =
      blanksAtEnd text ++ ['/'] := by
    rw [List.takeWhile_append_of_pos]
    · rfl
    · intro c inside
      have query := ne_of_mem_blanksAtEnd (by decide : ' ' < '?') inside
      have fragment := ne_of_mem_blanksAtEnd (by decide : ' ' < '#') inside
      simp [query, fragment]
  rw [hierarchy_ofText, hierarchy_ofText, visible_slash]
  have cases := Text.takeWhile_append_or (fun c => c ≠ '?' ∧ c ≠ '#') (visible text)
    (blanksAtEnd text ++ ['/'])
  rwa [kept] at cases

/-- Behind an authority a slash ends it, with the blanks in front of the slash. -/
theorem authorityOf_slash (text : Text) (nonempty : authorityOf rest ≠ []) :
    authorityOf (rest ++ (blanksAtEnd text ++ ['/'])) = authorityOf rest ∨
      authorityOf (rest ++ (blanksAtEnd text ++ ['/'])) = authorityOf rest ++ blanksAtEnd text := by
  -- No blank is a slash, so the added text is taken up to its last character.
  have ended : (blanksAtEnd text ++ ['/']).takeWhile (!isWebSlash ·) = blanksAtEnd text := by
    rw [List.takeWhile_append_of_pos]
    · exact List.append_nil _
    · intro c inside
      have slash := ne_of_mem_blanksAtEnd (by decide : ' ' < '/') inside
      have backslash := ne_of_mem_blanksAtEnd (by decide : ' ' < '\\') inside
      simp [isWebSlash, slash, backslash]
  unfold authorityOf at nonempty ⊢
  cases start : rest.dropWhile isWebSlash with
  | nil => simp [start] at nonempty
  | cons c behind =>
    rw [Text.dropWhile_append_of_eq_cons start, ← List.cons_append]
    have cases := Text.takeWhile_append_or (!isWebSlash ·) (c :: behind)
      (blanksAtEnd text ++ ['/'])
    rwa [ended] at cases

/-- A slash behind a text leaves the scheme, and adds at most blanks to the authority. -/
theorem scheme?_slash (given : (Written.ofText text).scheme? = some (scheme, rest))
    (nonempty : authorityOf rest ≠ []) :
    ∃ more, (Written.ofText (text ++ ['/'])).scheme? = some (scheme, more) ∧
      (authorityOf more = authorityOf rest ∨
        authorityOf more = authorityOf rest ++ blanksAtEnd text) := by
  -- Either the text behind the scheme is the same, or it has the blanks and the slash behind it.
  rcases hierarchy_slash text with same | longer
  · refine ⟨rest, ?_, .inl rfl⟩
    rw [← given]
    simp only [Written.scheme?, same]
  · refine ⟨rest ++ (blanksAtEnd text ++ ['/']), ?_, authorityOf_slash text nonempty⟩
    simp only [Written.scheme?] at given ⊢
    split at given
    · rename_i name behind split
      obtain ⟨named, same⟩ := Option.ite_none_right_eq_some.mp given
      cases same
      simp [longer, Text.splitFirst_append_of_eq_some split, named]
    · cases given

/-- The authority of a URL of HTTP does not end in a blank. -/
theorem lt_of_exists_parse (read : ∃ url, parse text = .ok url ∧ url.isHttp = true) :
    ∀ c ∈ (authority text).getLast?, ' ' < c := by
  -- What is read for such a URL is the authority of the text.
  obtain ⟨scheme, rest, given, _, reads⟩ := exists_parse_iff.mp read
  have own : authority text = authorityOf rest := by simp [authority, given]
  rw [own]
  exact reads.lt_of_mem_getLast?

/-- A URL of HTTP stays one with a slash behind it, unless the slash leaves blanks at the end of the
authority. -/
theorem exists_parse_slash_iff (read : ∃ url, parse text = .ok url ∧ url.isHttp = true) :
    (∃ url, parse (text ++ ['/']) = .ok url ∧ url.isHttp = true) ↔
      ∀ c ∈ (authority (text ++ ['/'])).getLast?, ' ' < c := by
  refine ⟨lt_of_exists_parse, fun solid => ?_⟩
  obtain ⟨scheme, rest, given, http, reads⟩ := exists_parse_iff.mp read
  obtain ⟨more, given', grown⟩ := scheme?_slash given reads.ne_nil
  have own : authority (text ++ ['/']) = authorityOf more := by simp [authority, given']
  refine exists_parse_iff.mpr ⟨scheme, more, given', http, ?_⟩
  -- The authority is the same, since it has got no blank.
  suffices same : authorityOf more = authorityOf rest by rwa [same]
  rcases grown with same | longer
  · exact same
  · cases blank : (blanksAtEnd text).getLast? with
    | none => rw [longer, List.getLast?_eq_none_iff.mp blank, List.append_nil]
    | some c =>
      have last : c ∈ (authority (text ++ ['/'])).getLast? := by
        simp [own, longer, List.getLast?_append, blank]
      have blank := le_of_mem_blanksAtEnd c (List.mem_of_mem_getLast? blank)
      exact absurd blank (Char.not_le.mpr (solid c last))

end Slash

end RelyingParty.Url
