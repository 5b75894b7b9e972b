import RelyingParty.Proofs.Filter.Visits
import RelyingParty.Proofs.Text.Number

/-! Priorities that are written as numerals order URIs and services as numbers up to 63 bits; a
greater numeral counts as a missing one. -/

namespace RelyingParty

namespace Xrds

/-- Whether the priority of an element is written as a numeral of a number. -/
def HasPriority (n : Nat) (node : Xml.Node) : Prop :=
  ∃ numeral, node.attribute? "priority" = some numeral ∧ Text.IsNumeral n numeral

/-- A numeral is only one of one number. -/
theorem HasPriority.unique {m n : Nat} {node : Xml.Node} (first : HasPriority m node)
    (second : HasPriority n node) : m = n := by
  -- There is one attribute and so one numeral.
  obtain ⟨numeral, written, _, _, value⟩ := first
  obtain ⟨numeral', written', _, _, value'⟩ := second
  obtain rfl : numeral = numeral' := Option.some.inj (written.symm.trans written')
  exact value.symm.trans value'

/-- The least number that does not fit into 63 bits. -/
def priorityBound : Nat := 0x8000000000000000

/-- What a numeral of a number counts as: a number that does not fit counts as zero. -/
def countOf (n : Nat) : Int := if n < priorityBound then n else 0

/-- Of two numbers the lower one counts less, or the same and stands first, unless the higher one
does not fit and the lower one counts. -/
theorem countOf_less_iff {m n place place' : Nat} (lower : m < n) :
    (countOf m < countOf n ∨ countOf m = countOf n ∧ place < place') ↔
      n < priorityBound ∨ (m = 0 ∨ priorityBound ≤ m) ∧ place < place' := by
  -- Both numbers count as they are or as zero.
  unfold countOf
  split <;> split <;> omega

/-- An element counts as the number of its numeral does. -/
theorem priorityOf_of_hasPriority {n : Nat} {node : Xml.Node} (written : HasPriority n node) :
    (priorityOf node).getD 0 = countOf n := by
  -- The numeral is read without blanks, and is lost where it does not fit.
  obtain ⟨value, own, numeral⟩ := written
  rw [priorityOf, own, Option.bind_some, Text.trim_of_isNumeral numeral,
    Text.int64?_of_isNumeral numeral, countOf, priorityBound]
  split <;> rfl

/-- The description of a document that is well-formed, with its elements. -/
theorem parse_of_parse? {text : Text} {root : Xml.Node} (read : Xml.parse? text = some root)
    (named : root.isElement rootSpace "XRDS" = true) :
    parse text = .ok ⟨(root.childrenNamed xrdSpace "XRD").map xrdOf⟩ := by
  -- The root is the one that is asked for.
  rw [parse, read]
  exact if_pos named

end Xrds

namespace Visit

/-- What a visit reads of the element of a description: the element of its service, and of that one
the element of its URI, each at the place of the visit. -/
structure Reads (description service uri : Xml.Node) (visit : Visit) : Prop where
  service_at : (description.childrenNamed Xrds.xrdSpace "Service")[visit.place]? = some service
  uri_at : (service.childrenNamed Xrds.xrdSpace "URI")[visit.uriPlace]? = some uri
  service_eq : visit.service = Xrds.serviceOf service
  uri_eq : visit.uri = Xrds.uriOf uri

variable {description service service' uri uri' : Xml.Node} {first second visit : Visit}

/-- The visits of a description are those that read elements of it. -/
theorem mem_visits_xrdOf_iff : visit ∈ visits (Xrds.xrdOf description).services ↔
    ∃ service uri, visit.Reads description service uri := by
  rw [mem_visits_iff]
  constructor
  · -- The service and the URI of a place are read from the elements of that place.
    rintro ⟨serviceAt, uriAt⟩
    obtain ⟨service, service_at, same⟩ := by
      simpa only [Xrds.xrdOf, List.getElem?_map, Option.map_eq_some_iff] using serviceAt
    obtain ⟨uri, uri_at, own⟩ := by
      simpa only [← same, Xrds.serviceOf, List.getElem?_map, Option.map_eq_some_iff] using uriAt
    exact ⟨service, uri, service_at, uri_at, same.symm, own.symm⟩
  · rintro ⟨service, uri, reads⟩
    constructor
    · simp only [Xrds.xrdOf, List.getElem?_map, reads.service_at, reads.service_eq, Option.map_some]
    · simp only [reads.service_eq, Xrds.serviceOf, List.getElem?_map, reads.uri_at, reads.uri_eq,
        Option.map_some]

end Visit

/-- Two elements of a list stand in it in this order or in the other one. -/
theorem pair_sublist_or {α : Type} {list : List α} {a b : α} (first : a ∈ list) (second : b ∈ list)
    (other : a ≠ b) : [a, b].Sublist list ∨ [b, a].Sublist list := by
  -- The second one stands in front of the first one or behind it.
  obtain ⟨front, back, rfl⟩ := List.append_of_mem first
  obtain before | same | behind : b ∈ front ∨ b = a ∨ b ∈ back := by simpa using second
  · exact .inr ((List.singleton_sublist.mpr before).append (List.singleton_sublist.mpr (.head _)))
  · exact absurd same.symm other
  · have last : [a, b].Sublist (a :: back) := (List.singleton_sublist.mpr behind).cons_cons a
    exact .inl (last.trans (List.sublist_append_right front _))

/-- Of two visits the one that comes before the other one is made first. -/
theorem sublist_visits_iff {services : List Service} {first second : Visit}
    (made : first ∈ visits services) (made' : second ∈ visits services) :
    [first, second].Sublist (visits services) ↔ first.Precedes second := by
  constructor
  · exact fun order => List.pairwise_iff_forall_sublist.mp pairwise_visits order
  · intro before
    -- The other order would put the second one before the first one.
    have other : first ≠ second := fun same => before.asymm (same ▸ before)
    refine (pair_sublist_or made made' other).resolve_right fun order => ?_
    exact before.asymm (List.pairwise_iff_forall_sublist.mp pairwise_visits order)

namespace Visit.Reads

variable {description service service' uri uri' : Xml.Node} {first second : Visit} {m n : Nat}

/-- Visits of the same place read the same service. -/
theorem service_unique (reads : first.Reads description service uri)
    (reads' : second.Reads description service' uri') (same : first.place = second.place) :
    service = service' := by
  -- A place holds one element.
  have own := reads.service_at
  rw [same, reads'.service_at] at own
  exact (Option.some.inj own).symm

/-- A visit counts the numeral of its URI. -/
theorem counts_uri (reads : first.Reads description service uri)
    (written : Xrds.HasPriority n uri) :
    first.uri.priority.getD 0 = Xrds.countOf n := by
  -- The visit has read its URI from this element.
  rw [reads.uri_eq]
  exact Xrds.priorityOf_of_hasPriority written

/-- A visit counts the numeral of its service. -/
theorem counts_service (reads : first.Reads description service uri)
    (written : Xrds.HasPriority n service) :
    first.service.priority.getD 0 = Xrds.countOf n := by
  -- And its service from the other.
  rw [reads.service_eq]
  exact Xrds.priorityOf_of_hasPriority written

/-- Within a service the numerals of the URIs decide. -/
theorem precedes_iff_uri (reads : first.Reads description service uri)
    (reads' : second.Reads description service' uri') (same : first.place = second.place)
    (written : Xrds.HasPriority m uri) (written' : Xrds.HasPriority n uri') (lower : m < n) :
    first.Precedes second ↔
      n < Xrds.priorityBound ∨
        (m = 0 ∨ Xrds.priorityBound ≤ m) ∧ first.uriPlace < second.uriPlace := by
  -- Visits of one service compare by their URIs alone.
  have together : first.service = second.service := by
    rw [reads.service_eq, reads'.service_eq, reads.service_unique reads' same]
  rw [← Xrds.countOf_less_iff lower, ← reads.counts_uri written, ← reads'.counts_uri written',
    Precedes]
  simp [together, same]

/-- Among services their numerals decide. -/
theorem precedes_iff_service (reads : first.Reads description service uri)
    (reads' : second.Reads description service' uri') (written : Xrds.HasPriority m service)
    (written' : Xrds.HasPriority n service') (lower : m < n) :
    first.Precedes second ↔
      n < Xrds.priorityBound ∨ (m = 0 ∨ Xrds.priorityBound ≤ m) ∧ first.place < second.place := by
  -- One element does not have two numbers.
  have apart : first.place ≠ second.place := fun same => by
    rw [← reads.service_unique reads' same] at written'
    exact lower.ne (written.unique written')
  rw [← Xrds.countOf_less_iff lower, ← reads.counts_service written,
    ← reads'.counts_service written', Precedes]
  simp [apart]

end Visit.Reads

namespace Filter

/-- The filter that takes every candidate as it is gives one endpoint for each URI element of each
Service element of the last description. Of two URI elements of one service whose priorities are
numerals, and of two Service elements, what belongs to the lower number comes first when the higher
one fits into 63 bits; otherwise only when neither number counts and its element stands first. -/
theorem endpointsOfDocument_numerals {text : Text} {root description : Xml.Node}
    (read : Xml.parse? text = some root) (named : root.isElement Xrds.rootSpace "XRDS" = true)
    (last : (root.childrenNamed Xrds.xrdSpace "XRD").getLast? = some description)
    (yadisUrl : Text) :
    let made := visits (Xrds.xrdOf description).services
    basic.endpointsOfDocument yadisUrl text = .ok (made.map (Visit.candidate yadisUrl)) ∧
      (∀ visit, visit ∈ made ↔ ∃ service uri, visit.Reads description service uri) ∧
      ∀ {first second : Visit} {service service' uri uri' : Xml.Node} {m n : Nat},
        first.Reads description service uri → second.Reads description service' uri' → m < n →
          (first.place = second.place → Xrds.HasPriority m uri → Xrds.HasPriority n uri' →
            ([first, second].Sublist made ↔
              n < Xrds.priorityBound ∨
                (m = 0 ∨ Xrds.priorityBound ≤ m) ∧ first.uriPlace < second.uriPlace)) ∧
          (Xrds.HasPriority m service → Xrds.HasPriority n service' →
            ([first, second].Sublist made ↔
              n < Xrds.priorityBound ∨
                (m = 0 ∨ Xrds.priorityBound ≤ m) ∧ first.place < second.place)) := by
  intro made
  have own : ((root.childrenNamed Xrds.xrdSpace "XRD").map Xrds.xrdOf).getLast? =
      some (Xrds.xrdOf description) := by rw [List.getLast?_map, last, Option.map_some]
  refine ⟨endpointsOfDocument_basic (Xrds.parse_of_parse? read named) own yadisUrl,
    fun _ => Visit.mem_visits_xrdOf_iff, ?_⟩
  intro first second service service' uri uri' m n reads reads' lower
  -- Of two visits one stands first, and that is the one that precedes.
  have order : [first, second].Sublist made ↔ first.Precedes second :=
    sublist_visits_iff (Visit.mem_visits_xrdOf_iff.mpr ⟨_, _, reads⟩)
      (Visit.mem_visits_xrdOf_iff.mpr ⟨_, _, reads'⟩)
  rw [order]
  constructor
  · intro same written written'
    exact reads.precedes_iff_uri reads' same written written' lower
  · intro written written'
    exact reads.precedes_iff_service reads' written written' lower

/-- A document with a URI of priority 1 and one of priority 2⁶³ behind it, and with services of the
priorities 10 and 9. -/
def numeralDocument : Text :=
  "<R:XRDS xmlns:R='xri://$xrds' xmlns='xri://$xrd*($v*2.0)'><XRD><Service priority='10'>".toList ++
    "<URI priority='1'>http://a/</URI><URI priority='9223372036854775808'>http://b/</URI>" ++
    "</Service><Service priority='9'><URI>http://c/</URI></Service></XRD></R:XRDS>"

/-- The services come in the order of their numbers; within the first one the URI of priority 1 is
not before the one of priority 2⁶³. -/
theorem endpointsOfDocument_numerals_wide :
    let ten : Service :=
      ⟨some 10, [], [⟨some 1, "http://a/"⟩, ⟨none, "http://b/"⟩], [], []⟩
    let nine : Service := ⟨some 9, [], [⟨none, "http://c/"⟩], [], []⟩
    let small : Visit := ⟨ten, 0, ⟨some 1, "http://a/"⟩, 0⟩
    let wide : Visit := ⟨ten, 0, ⟨none, "http://b/"⟩, 1⟩
    let first : Visit := ⟨nine, 1, ⟨none, "http://c/"⟩, 0⟩
    basic.endpointsOfDocument "http://y/" numeralDocument =
        .ok ([first, wide, small].map (Visit.candidate "http://y/")) ∧
      [first, small].Sublist (visits [ten, nine]) ∧
      ¬ [small, wide].Sublist (visits [ten, nine]) := by
  intro ten nine small wide first
  let element (base : String) (attributes : List (Xml.Name × Text)) (children : List Xml.Node) :=
    Xml.Node.element ⟨some Xrds.xrdSpace, base⟩ attributes children
  let priority (numeral : String) : List (Xml.Name × Text) := [(⟨none, "priority"⟩, numeral)]
  let uri := element "URI" (priority "1") [.text "http://a/"]
  let uri' := element "URI" (priority "9223372036854775808") [.text "http://b/"]
  let uri'' := element "URI" [] [.text "http://c/"]
  let service := element "Service" (priority "10") [uri, uri']
  let service' := element "Service" (priority "9") [uri'']
  let description := element "XRD" [] [service, service']
  let root : Xml.Node := .element ⟨some Xrds.rootSpace, "XRDS"⟩ [] [description]
  -- The document is read as the elements above.
  have read : Xml.parse? numeralDocument = some root := by decide +kernel
  have services : (Xrds.xrdOf description).services = [ten, nine] := by decide +kernel
  have order : visits [ten, nine] = [first, wide, small] := by cbv
  obtain ⟨all, _, ordered⟩ := endpointsOfDocument_numerals read (by decide +kernel)
    (show _ = some description from rfl) "http://y/"
  rw [services] at all ordered
  have readsSmall : small.Reads description service uri :=
    ⟨rfl, rfl, by decide +kernel, by decide +kernel⟩
  have readsWide : wide.Reads description service uri' :=
    ⟨rfl, rfl, by decide +kernel, by decide +kernel⟩
  have readsFirst : first.Reads description service' uri'' :=
    ⟨rfl, rfl, by decide +kernel, by decide +kernel⟩
  -- Nine is below ten, and both count.
  have servicesInOrder : [first, small].Sublist (visits [ten, nine]) :=
    ((ordered readsFirst readsSmall (by decide : 9 < 10)).2 ⟨"9", rfl, by decide +kernel⟩
      ⟨"10", rfl, by decide +kernel⟩).mpr (.inl (by decide))
  -- The second number is the bound itself, so it does not count.
  have urisOutOfOrder : ¬ [small, wide].Sublist (visits [ten, nine]) := by
    rw [(ordered readsSmall readsWide (by decide : 1 < Xrds.priorityBound)).1 rfl
      ⟨"1", rfl, by decide +kernel⟩ ⟨"9223372036854775808", rfl, by decide +kernel⟩]
    decide
  rw [order] at all
  exact ⟨all, servicesInOrder, urisOutOfOrder⟩

end Filter

end RelyingParty
