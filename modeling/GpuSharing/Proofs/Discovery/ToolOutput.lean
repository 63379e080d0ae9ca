import GpuSharing.Proofs.Decimal.Digits
import GpuSharing.Proofs.Discovery.Results
import GpuSharing.Proofs.Json.RoundTrip
import GpuSharing.Proofs.Naming

/-!
# Reports of the management tool, card by card

Whatever the tool writes, as long as it is an object: each card of it comes up once in the
report, as a device or as a failure, and what is said of it rests on its own entry alone. A card
that cannot be read therefore costs no other card.
-/

set_option autoImplicit false

namespace GpuSharing

namespace NaturalKey

theorem le_iff {first second : NaturalKey} : first.le second ↔
    first.stem < second.stem ∨ first.stem = second.stem ∧ first.number ≤ second.number := by
  simp [le]

theorem le_trans (first second third : NaturalKey) (before : first.le second)
    (after : second.le third) : first.le third := by
  rw [le_iff] at *
  rcases before with before | ⟨same, before⟩
  · rcases after with after | ⟨again, _⟩
    · exact .inl (String.lt_trans before after)
    · exact .inl (again ▸ before)
  · rcases after with after | ⟨again, after⟩
    · exact .inl (same ▸ after)
    · exact .inr ⟨same.trans again, before.trans after⟩

theorem le_total (first second : NaturalKey) : (first.le second || second.le first) = true := by
  rw [Bool.or_eq_true, le_iff, le_iff]
  rcases lt_trichotomy first.stem second.stem with before | same | after
  · exact .inl (.inl before)
  · exact (Nat.le_total first.number second.number).imp (.inr ⟨same, ·⟩) (.inr ⟨same.symm, ·⟩)
  · exact .inr (.inl after)

/-- A number that is written after a stem is the number of the name. -/
theorem ofName_append {stem : String} (ends : Decimal.Ends stem.toList.reverse) {number : Nat}
    (small : number < UInt64.size) : ofName (stem ++ toString number) = ⟨stem, number⟩ := by
  have all : ∀ c ∈ (Nat.toDigits 10 number).reverse, c.isDigit := fun c member =>
    Decimal.isDigit_of_mem_toDigits (List.mem_reverse.mp member)
  have reversed : (stem ++ toString number).toList.reverse =
      (Nat.toDigits 10 number).reverse ++ stem.toList.reverse := by
    simp [Nat.toList_repr]
  unfold ofName
  simp only [reversed, Decimal.takeWhile_digits all ends, Decimal.dropWhile_digits all ends,
    List.reverse_reverse, String.ofList_toList]
  rw [Decimal.natBelow?, String.toList_ofList, Decimal.natIn?_toDigits, Option.filter_some,
    if_pos (decide_eq_true small), Option.getD_some]

end NaturalKey

/-- Of two values in a list in order, the one that cannot come second comes first. -/
theorem sublist_of_pairwise {α : Type} {R : α → α → Prop} {values : List α} {first second : α}
    (ordered : values.Pairwise R) (firstHere : first ∈ values) (secondHere : second ∈ values)
    (apart : first ≠ second) (after : ¬ R second first) : [first, second].Sublist values := by
  induction values with
  | nil => cases firstHere
  | cons head rest ih =>
      obtain ⟨ahead, ordered⟩ := List.pairwise_cons.mp ordered
      rcases List.mem_cons.mp firstHere with rfl | firstLater
      · have secondLater := (List.mem_cons.mp secondHere).resolve_left apart.symm
        exact .cons_cons first (List.singleton_sublist.mpr secondLater)
      · rcases List.mem_cons.mp secondHere with rfl | secondLater
        · exact absurd (ahead first firstLater) after
        · exact (ih ordered firstLater secondLater).cons head

theorem pairwise_naturalSort {α : Type} (name : α → String) (values : List α) :
    ((naturalSort name values).map name).Pairwise fun first second =>
      (NaturalKey.ofName first).le (.ofName second) := by
  refine List.pairwise_map.mpr (List.pairwise_mergeSort (fun first second third => ?_)
    (fun first second => ?_) values)
  · exact NaturalKey.le_trans (.ofName (name first)) (.ofName (name second)) (.ofName (name third))
  · exact NaturalKey.le_total (.ofName (name first)) (.ofName (name second))

/-- Names in natural order that differ in their number only come in the order of the numbers. -/
theorem sublist_of_natural {names : List String}
    (ordered : names.Pairwise fun first second =>
      (NaturalKey.ofName first).le (.ofName second))
    {stem : String} (ends : Decimal.Ends stem.toList.reverse) {low high : Nat} (less : low < high)
    (small : high < UInt64.size) (lowHere : stem ++ toString low ∈ names)
    (highHere : stem ++ toString high ∈ names) :
    [stem ++ toString low, stem ++ toString high].Sublist names := by
  have lowKey := NaturalKey.ofName_append ends (less.trans small)
  have highKey := NaturalKey.ofName_append ends small
  have after : ¬ (NaturalKey.ofName (stem ++ toString high)).le
      (.ofName (stem ++ toString low)) := by
    rw [NaturalKey.le_iff, lowKey, highKey]
    simp [less]
  have apart : stem ++ toString low ≠ stem ++ toString high := fun same =>
    less.ne (NaturalKey.mk.inj (lowKey.symm.trans (same ▸ highKey))).2
  exact sublist_of_pairwise ordered lowHere highHere apart after

namespace DiscoveryReport

def names (report : DiscoveryReport) : List String :=
  report.devices.map (·.device) ++ report.failures.map (·.device)

/-- All that a report says of a name. -/
def about (report : DiscoveryReport) (name : String) :
    List DeviceDescriptor × List DeviceFailure :=
  (report.devices.filter (·.device = name), report.failures.filter (·.device = name))

def nameOf : Except DeviceFailure DeviceDescriptor → String
  | .ok descriptor => descriptor.device
  | .error failure => failure.device

/-- What a report says where this is its only result. -/
def saying : Except DeviceFailure DeviceDescriptor → List DeviceDescriptor × List DeviceFailure
  | .ok descriptor => ([descriptor], [])
  | .error failure => ([], [failure])

theorem names_ofResults (source : String) (results : List (Except DeviceFailure DeviceDescriptor)) :
    (ofResults source results).names.Perm (results.map nameOf) := by
  unfold names ofResults naturalSort
  refine (((List.mergeSort_perm _ _).map _).append_right _).trans ?_
  induction results with
  | nil => exact .nil
  | cons result rest ih =>
      cases result with
      | ok descriptor => exact ih.cons descriptor.device
      | error failure => exact List.perm_middle.trans (ih.cons failure.device)

theorem about_ofResults (source : String) (results : List (Except DeviceFailure DeviceDescriptor))
    (name : String) :
    ((ofResults source results).about name).1.Perm
        (ofResults source (results.filter (nameOf · = name))).devices ∧
      ((ofResults source results).about name).2 =
        (ofResults source (results.filter (nameOf · = name))).failures := by
  constructor
  -- Devices are sorted after they are collected, so their order is that of a part of the results
  -- only up to a permutation; failures keep theirs.
  · refine ((List.mergeSort_perm _ _).filter _).trans (.trans ?_ (List.mergeSort_perm _ _).symm)
    rw [List.filter_filterMap, List.filterMap_filter]
    refine .of_eq (List.filterMap_congr fun result _ => ?_)
    cases result with
    | ok descriptor => by_cases here : descriptor.device = name <;> simp [nameOf, here]
    | error failure => simp
  · change List.filter _ (List.filterMap _ _) = List.filterMap _ _
    rw [List.filter_filterMap, List.filterMap_filter]
    refine List.filterMap_congr fun result _ => ?_
    cases result with
    | ok descriptor => simp
    | error failure => by_cases here : failure.device = name <;> simp [nameOf, here]

variable {source : String} {results : List (Except DeviceFailure DeviceDescriptor)}

theorem about_of_filter_eq {name : String} {result : Except DeviceFailure DeviceDescriptor}
    (only : results.filter (nameOf · = name) = [result]) :
    (ofResults source results).about name = saying result := by
  obtain ⟨devices, failures⟩ := about_ofResults source results name
  rw [only] at devices failures
  cases result with
  | ok descriptor =>
      have only : ((ofResults source results).about name).1.Perm [descriptor] := by
        simpa [ofResults, naturalSort] using devices
      exact Prod.ext (List.perm_singleton.mp only) failures
  | error failure =>
      have none : ((ofResults source results).about name).1.Perm [] := by
        simpa [ofResults, naturalSort] using devices
      exact Prod.ext (List.perm_nil.mp none) failures

theorem about_of_not_mem {report : DiscoveryReport} {name : String}
    (unnamed : name ∉ report.names) : report.about name = ([], []) := by
  simp only [names, List.mem_append, List.mem_map, not_or, not_exists, not_and] at unnamed
  refine Prod.ext (List.filter_eq_nil_iff.mpr fun descriptor listed => ?_)
    (List.filter_eq_nil_iff.mpr fun failure told => ?_)
  · simpa using unnamed.1 descriptor listed
  · simpa using unnamed.2 failure told

end DiscoveryReport

namespace ToolReport

theorem isCard_iff {name : String} : isCard name ↔ ∃ rest, name = "card" ++ rest := by
  rw [isCard, List.isPrefixOf_iff_prefix]
  constructor
  · rintro ⟨rest, parts⟩
    exact ⟨String.ofList rest, String.toList_inj.mp (by simp [← parts])⟩
  · rintro ⟨rest, rfl⟩
    exact ⟨rest.toList, by simp⟩

theorem nameOf_ofEntry (card : String) (json : Json) :
    DiscoveryReport.nameOf (ofEntry card json) = card := by
  cases json with
  | object fields =>
      rw [ofEntry]
      rcases ofFields_cases card fields with
        ⟨_, refused⟩ | ⟨_, ⟨reason, _, refused⟩ | ⟨_, descriptor, _, used, same, _⟩⟩
      · rw [refused]
        rfl
      · rw [refused]
        rfl
      · rw [used]
        exact same
  | null | bool | integer | float | string | array | unreadable => rfl

/-- The entries of the cards, in the order of their names. -/
def cards (members : List (String × Json)) : List (String × Json) :=
  (entries members).entries.filter fun entry => isCard entry.1

variable {members : List (String × Json)} {card : String}

theorem mem_cards {json : Json} : (card, json) ∈ cards members ↔
    isCard card ∧ Json.lastMember? members card = some json := by
  rw [cards, List.mem_filter, Keyed.mem_entries, get?_entries, and_comm]

theorem nodup_cards (members : List (String × Json)) : ((cards members).map (·.1)).Nodup :=
  (entries members).nodup_keys.sublist (List.filter_sublist.map _)

theorem ofMembers_eq (members : List (String × Json)) : ofMembers members =
    .ofResults "rocm-smi" ((cards members).map fun entry => ofEntry entry.1 entry.2) := rfl

theorem names_ofMembers (members : List (String × Json)) :
    (ofMembers members).names.Perm ((cards members).map (·.1)) := by
  rw [ofMembers_eq]
  refine (DiscoveryReport.names_ofResults _ _).trans (.of_eq ?_)
  rw [List.map_map]
  exact List.map_congr_left fun entry _ => nameOf_ofEntry entry.1 entry.2

theorem about_ofMembers {json : Json} (named : isCard card)
    (entry : Json.lastMember? members card = some json) :
    (ofMembers members).about card = DiscoveryReport.saying (ofEntry card json) := by
  rw [ofMembers_eq]
  refine DiscoveryReport.about_of_filter_eq ?_
  rw [List.filter_map]
  have own : (cards members).filter
      ((fun result => decide (DiscoveryReport.nameOf result = card)) ∘
        fun entry => ofEntry entry.1 entry.2) = (cards members).filter (·.1 = card) :=
    List.filter_congr fun entry _ => by simp [nameOf_ofEntry]
  rw [own, filter_named (nodup_cards members) (mem_cards.mpr ⟨named, entry⟩)]
  rfl

theorem mem_names_ofMembers : card ∈ (ofMembers members).names ↔
    isCard card ∧ ∃ json, Json.lastMember? members card = some json := by
  rw [(names_ofMembers members).mem_iff, List.mem_map]
  constructor
  · rintro ⟨⟨_, json⟩, listed, rfl⟩
    obtain ⟨named, entry⟩ := mem_cards.mp listed
    exact ⟨named, json, entry⟩
  · rintro ⟨named, json, entry⟩
    exact ⟨(card, json), mem_cards.mpr ⟨named, entry⟩, rfl⟩

/-- The members of the object that a text is read as. Parts that cannot be used, and too many
levels, make it no object at all. -/
def members? (output : String) : Option (List (String × Json)) :=
  match Json.parse? output with
  | some (.object members) =>
      if (Json.object members).isReadable && (Json.object members).depth < depthLimit then
        some members
      else none
  | _ => none

theorem members?_eq_some {output : String} : members? output = some members ↔
    Json.parse? output = some (.object members) ∧
      ((Json.object members).isReadable && (Json.object members).depth < depthLimit) := by
  constructor
  · intro read
    unfold members? at read
    split at read
    case h_1 found parsed =>
      split at read
      case isTrue usable =>
        cases read
        exact ⟨parsed, usable⟩
      case isFalse => cases read
    case h_2 => cases read
  · rintro ⟨parsed, usable⟩
    rw [members?, parsed]
    exact if_pos usable

theorem parse_of_members? {output : String} (read : members? output = some members) :
    parse output = .ok (ofMembers members) := by
  obtain ⟨parsed, usable⟩ := members?_eq_some.mp read
  rw [parse, parsed]
  exact if_pos usable

/-- What a report on the cards of an object says, card by card. -/
structure CardByCard (members : List (String × Json)) (report : DiscoveryReport) : Prop where
  once : report.names.Nodup
  named : ∀ name, name ∈ report.names ↔
    (∃ rest, name = "card" ++ rest) ∧ ∃ json, Json.lastMember? members name = some json
  ordered : (report.devices.map (·.device)).Pairwise fun first second =>
    (NaturalKey.ofName first).le (.ofName second)
  /-- Numbers that names end in count as such, so the second card comes before the tenth. -/
  numbered : ∀ stem : String, Decimal.Ends stem.toList.reverse → ∀ low high : Nat, low < high →
    high < UInt64.size → stem ++ toString low ∈ report.devices.map (·.device) →
      stem ++ toString high ∈ report.devices.map (·.device) →
        [stem ++ toString low, stem ++ toString high].Sublist (report.devices.map (·.device))
  /-- The entry of a card decides whether it is a device or a failure, and which. -/
  told : ∀ card ∈ report.names, ∀ json, Json.lastMember? members card = some json →
    report.about card = DiscoveryReport.saying (ofEntry card json)

theorem cardByCard_ofMembers (members : List (String × Json)) :
    CardByCard members (ofMembers members) where
  once := (names_ofMembers members).nodup_iff.mpr (nodup_cards members)
  named := fun name => by rw [mem_names_ofMembers, isCard_iff]
  ordered := pairwise_naturalSort _ _
  numbered := fun _ ends _ _ less small =>
    sublist_of_natural (pairwise_naturalSort _ _) ends less small
  told := fun card listed json entry => about_ofMembers (mem_names_ofMembers.mp listed).1 entry

theorem about_ofMembers_congr {others : List (String × Json)}
    (same : Json.lastMember? members card = Json.lastMember? others card) :
    (ofMembers members).about card = (ofMembers others).about card := by
  by_cases listed : card ∈ (ofMembers members).names
  · obtain ⟨named, json, entry⟩ := mem_names_ofMembers.mp listed
    rw [about_ofMembers named entry, about_ofMembers named (same ▸ entry)]
  · have unlisted : card ∉ (ofMembers others).names := by
      rw [mem_names_ofMembers] at listed ⊢
      rwa [← same]
    rw [DiscoveryReport.about_of_not_mem listed, DiscoveryReport.about_of_not_mem unlisted]

/-- Every text that is read as an object gives a report. Its names are those of the cards, each of
them once, with the devices in their natural order. What it says of a card follows from the entry
of that card, whatever else the text holds. -/
theorem parse_cardByCard {output : String} (read : members? output = some members) :
    ∃ report, parse output = .ok report ∧ CardByCard members report ∧
      ∀ other others, members? other = some others → ∃ changed, parse other = .ok changed ∧
        ∀ card, Json.lastMember? members card = Json.lastMember? others card →
          report.about card = changed.about card :=
  ⟨ofMembers members, parse_of_members? read, cardByCard_ofMembers members,
    fun _ others again => ⟨ofMembers others, parse_of_members? again,
      fun _ => about_ofMembers_congr⟩⟩

/-- One card has two entries, another one hangs, and one entry is about no card. -/
def mixed : List (String × Json) :=
  [("card10", .object [("VRAM Total Memory (B)", .string " 206158430208")]),
    ("card2", .null),
    ("system", .object [("Driver version", .string "6.7.0")]),
    ("card3", .string "hung"),
    ("card2", .object [("VRAM Total Memory (B)", .integer 206158430208)])]

/-- The hanging card is back, and the first one is gone. -/
def repaired : List (String × Json) :=
  [("card2", .object [("VRAM Total Memory (B)", .integer 206158430208)]),
    ("card3", .object [("VRAM Total Memory (B)", .integer 0)])]

theorem parse_cardByCard_mixed : ∃ report, parse (Json.object mixed).compact = .ok report ∧
    CardByCard mixed report ∧ ∃ changed, parse (Json.object repaired).compact = .ok changed ∧
      report.about "card2" = changed.about "card2" := by
  have read : members? (Json.object mixed).compact = some mixed :=
    members?_eq_some.mpr ⟨Json.parse?_compact (by decide), by decide⟩
  have again : members? (Json.object repaired).compact = some repaired :=
    members?_eq_some.mpr ⟨Json.parse?_compact (by decide), by decide⟩
  obtain ⟨report, parsed, cards, others⟩ := parse_cardByCard read
  obtain ⟨changed, reparsed, same⟩ := others (Json.object repaired).compact repaired again
  exact ⟨report, parsed, cards, changed, reparsed, same "card2" rfl⟩

end ToolReport

end GpuSharing
