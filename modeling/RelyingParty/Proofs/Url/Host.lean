import RelyingParty.Proofs.Except
import RelyingParty.Proofs.Text.Parts
import RelyingParty.Proofs.Url.Escape
import RelyingParty.Url.Host

/-! A host that is read holds none of the characters that no name holds: each of them is kept on
the way to the name in ASCII, and found there. -/

namespace RelyingParty

namespace Domain

variable {c : Char}

/-- What no name holds is in ASCII, is no hexadecimal digit, and is kept when names are folded. -/
theorem of_isForbidden (forbidden : isForbidden c = true) :
    c.toNat < 0x80 ∧ Text.digitValue? 16 c = none ∧ fold c = [c] := by
  have ascii : c.toNat < 0x80 := by
    simp only [isForbidden, Bool.or_eq_true, decide_eq_true_eq] at forbidden
    rcases forbidden with (control | rfl) | mark
    · exact Nat.lt_of_le_of_lt control (by decide)
    · decide
    · have all : "%#/:<>?@[\\]^|".toList.all (·.toNat < 0x80) = true := by decide
      exact of_decide_eq_true (List.all_eq_true.mp all c (List.contains_iff_mem.mp mark))
  -- The characters of ASCII are tried one by one.
  have tried : ∀ n < 0x80, isForbidden (Char.ofNat n) = true →
      Text.digitValue? 16 (Char.ofNat n) = none ∧ fold (Char.ofNat n) = [Char.ofNat n] := by
    decide +kernel
  have known := tried c.toNat ascii
  rw [Char.ofNat_toNat] at known
  exact ⟨ascii, known forbidden⟩

/-- A label in Punycode begins with its ASCII characters. -/
theorem mem_encode (ascii : c.toNat < 0x80) {label : Text} (inside : c ∈ label) :
    c ∈ Punycode.encode label := by
  -- The ASCII characters stand first, as soon as there is one.
  have basic : c ∈ label.filter (·.toNat < 128) :=
    List.mem_filter.mpr ⟨inside, by simpa using ascii⟩
  have nonempty : label.filter (·.toNat < 128) ≠ [] := List.ne_nil_of_mem basic
  simp only [Punycode.encode, if_neg nonempty, List.mem_append]
  exact .inl (.inl basic)

/-- A label keeps its ASCII characters. -/
theorem mem_of_labelToAscii? (ascii : c.toNat < 0x80) {label written : Text}
    (read : labelToAscii? label = some written) (inside : c ∈ label) : c ∈ written := by
  unfold labelToAscii? at read
  split at read
  · -- The label is in Punycode already.
    obtain ⟨_, same⟩ := Option.ite_none_right_eq_some.mp read
    cases same
    exact inside
  split at read
  · cases read
    exact inside
  · obtain ⟨_, same⟩ := Option.ite_none_right_eq_some.mp read
    cases same
    exact List.mem_append_right _ (mem_encode ascii inside)

/-- Only a text without the characters that no name holds has a name in ASCII. -/
theorem isForbidden_of_toAscii? {name ascii : Text} (read : toAscii? name = some ascii) :
    ∀ c ∈ name, isForbidden c = false := by
  intro c inside
  refine eq_false_of_ne_true fun forbidden => ?_
  obtain ⟨small, _, folded⟩ := of_isForbidden forbidden
  have point : c ≠ '.' := by
    rintro rfl
    exact absurd forbidden (by decide)
  obtain ⟨written, collected, checked⟩ := Option.bind_eq_some_iff.mp read
  -- The character is in a label of the folded name, and in that label as it is written.
  have kept : c ∈ name.flatMap fold := List.mem_flatMap.mpr ⟨c, inside, by simp [folded]⟩
  rw [← Text.intercalate_splitAll '.' (name.flatMap fold), Text.mem_intercalate_iff point] at kept
  obtain ⟨label, among, member⟩ := kept
  obtain ⟨part, there, own⟩ := exists_of_mapM_eq_some collected among
  have shown : c ∈ ['.'].intercalate written :=
    (Text.mem_intercalate_iff point).mpr ⟨part, there, mem_of_labelToAscii? small own member⟩
  -- So the last check finds it.
  have found : (['.'].intercalate written).any isForbidden = true :=
    List.any_eq_true.mpr ⟨c, shown, forbidden⟩
  simp [found] at checked

end Domain

namespace Host

variable {text : Text} {host : Host}

/-- A host of the web is an address between brackets, or it has a name. -/
theorem bracketed_or_named (read : parse text = .ok host) :
    (∃ rest, text = '[' :: rest ∧ ofBracketed rest = .ok host) ∨
      ∃ decoded name, Text.utf8 decoded = Url.unescape text ∧
        Domain.toAscii? decoded = some name ∧ ofAscii name = .ok host := by
  -- An opening bracket decides between the two, and an empty text is refused.
  unfold parse at read
  split at read
  · cases read
  · exact .inl ⟨_, rfl, read⟩
  · split at read
    · rename_i name named
      obtain ⟨decoded, octets, ascii⟩ := Option.bind_eq_some_iff.mp named
      obtain ⟨whole, same⟩ := Option.ite_none_right_eq_some.mp octets
      cases same
      exact .inr ⟨_, name, whole, ascii, read⟩
    · cases read

/-- A host without brackets holds no character that no name holds, but for percent signs. -/
theorem eq_percent_of_isForbidden (read : parse text = .ok host) (plain : text.head? ≠ some '[') :
    ∀ c ∈ text, Domain.isForbidden c = true → c = '%' := by
  intro c inside forbidden
  obtain ⟨rest, rfl, _⟩ | ⟨decoded, name, octets, ascii, _⟩ := bracketed_or_named read
  · exact absurd rfl plain
  · by_contra other
    obtain ⟨small, digit, _⟩ := Domain.of_isForbidden forbidden
    -- It stands for its own octet, so the decoded text has it too.
    have octet : UInt8.ofNat c.toNat ∈ Text.utf8 decoded := by
      rw [octets]
      exact Url.mem_unescape small other digit inside
    have kept : c ∈ decoded := (Text.mem_utf8_iff small).mp octet
    simp [Domain.isForbidden_of_toAscii? ascii c kept] at forbidden

/-- An address ends with its bracket. -/
theorem of_ofBracketed {rest : Text} (read : ofBracketed rest = .ok host) :
    rest.getLast? = some ']' ∧ ∃ pieces, host = .ipv6 pieces := by
  -- The address is read when a bracket closes it, and not otherwise.
  unfold ofBracketed at read
  split at read
  · rename_i pieces last _
    cases read
    exact ⟨last, pieces, rfl⟩
  · cases read

/-- A name is a domain, or an address of numbers. -/
theorem of_ofAscii {name : Text} (read : ofAscii name = .ok host) :
    host = .domain name ∨ ∃ address, host = .ipv4 address := by
  -- A name that ends in a number has to be an address.
  unfold ofAscii at read
  split at read
  · cases read
  split at read
  · split at read
    · cases read
      exact .inr ⟨_, rfl⟩
    · cases read
  · cases read
    exact .inl rfl

/-- A host of the web does not end in a blank. -/
theorem lt_of_mem_getLast? (read : parse text = .ok host) : ∀ c ∈ text.getLast?, ' ' < c := by
  intro c last
  refine Char.not_le.mp fun blank => ?_
  by_cases plain : text.head? = some '['
  · obtain ⟨rest, rfl⟩ := List.head?_eq_some_iff.mp plain
    have address : ofBracketed rest = .ok host := read
    rw [List.getLast?_cons, (of_ofBracketed address).1] at last
    cases last
    exact absurd blank (by decide)
  · -- Any other blank is one of the characters that no name holds.
    have inside : c ∈ text := List.mem_of_mem_getLast? last
    have forbidden : Domain.isForbidden c = true := by simp [Domain.isForbidden, blank]
    have percent := eq_percent_of_isForbidden read plain c inside forbidden
    rw [percent] at blank
    exact absurd blank (by decide)

/-- A host of the web is no plain text, so it is not empty. -/
theorem ne_plain_of_parse (read : parse text = .ok host) (written : Text) :
    host ≠ .plain written := by
  -- Neither an address nor a domain is kept as it was written.
  obtain ⟨rest, _, address⟩ | ⟨_, _, _, _, named⟩ := bracketed_or_named read
  · obtain ⟨pieces, rfl⟩ := (of_ofBracketed address).2
    simp
  · obtain rfl | ⟨address, rfl⟩ := of_ofAscii named
    · simp
    · simp

end Host

end RelyingParty
