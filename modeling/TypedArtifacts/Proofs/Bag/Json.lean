import TypedArtifacts.Bag.Json
import TypedArtifacts.Proofs.Instant.Exact
import TypedArtifacts.Proofs.Json
import TypedArtifacts.Proofs.Store.Expansion

namespace TypedArtifacts

open Outcome (bind_of_eq_some)

lemma BagValue.ofJson?_written (v : BagValue) : ofJson? v.toJson = some v := by
  have hkeys : (Dict.keys [("type", Json.str v.type.name), ("value", v.value)]).Nodup := by simp
  have hfields := Json.lookup_record hkeys
  simp only [List.forall_mem_cons] at hfields
  obtain ⟨htype, hvalue, -⟩ := hfields
  rw [ofJson?, toJson, Json.record]
  refine (bind_of_eq_some (a := Dict.ofList _) rfl).trans ?_
  refine (bind_of_eq_some htype).trans <| (bind_of_eq_some rfl).trans ?_
  refine (bind_of_eq_some (StoredType.ofName?_name v.type)).trans ?_
  exact bind_of_eq_some hvalue

namespace Blob

lemma locationOfJson?_written (l : BlobLocation) : locationOfJson? l.toJson = some l := by
  have hkeys : (Dict.keys [("value", Json.str l.value), ("status", .str l.status.name)]).Nodup := by
    simp
  have hfields := Json.lookup_record hkeys
  simp only [List.forall_mem_cons] at hfields
  obtain ⟨hvalue, hstatus, -⟩ := hfields
  rw [locationOfJson?, BlobLocation.toJson, Json.record]
  refine (bind_of_eq_some (a := Dict.ofList _) rfl).trans ?_
  refine (bind_of_eq_some hstatus).trans <| (bind_of_eq_some rfl).trans ?_
  refine (bind_of_eq_some hvalue).trans <| (bind_of_eq_some rfl).trans ?_
  exact bind_of_eq_some (LocationStatus.ofName?_name l.status)

lemma ofJson?_written {b : Blob} (h : b.size < UInt64.size) : ofJson? b.toJson = some b := by
  have hkeys : (Dict.keys [("size", Json.ofNat b.size), ("checksum", .ofOption .str b.checksum),
      ("item_key", .str b.itemKey), ("locations", .arr (b.locations.map (·.toJson)))]).Nodup := by
    simp
  have hfields := Json.lookup_record hkeys
  simp only [List.forall_mem_cons] at hfields
  obtain ⟨hsize, hchecksum, hkey, hlocations, -⟩ := hfields
  rw [ofJson?, toJson, Json.record]
  refine (bind_of_eq_some (a := Dict.ofList _) rfl).trans ?_
  refine (bind_of_eq_some hlocations).trans ?_
  refine (bind_of_eq_some (Json.listOf?_arr fun l _ => locationOfJson?_written l)).trans ?_
  refine (bind_of_eq_some (Json.optional?_str? hchecksum)).trans ?_
  refine (bind_of_eq_some hsize).trans <| (bind_of_eq_some (Json.nat64?_ofNat h)).trans ?_
  exact (bind_of_eq_some hkey).trans <| bind_of_eq_some rfl

end Blob

structure Header.Sound (h : Header) : Prop where
  tags : h.tags.Pairwise (· < ·)
  created : h.createdAt.InRange
  updated : h.updatedAt.InRange
  published : ∀ t ∈ h.publishedAt, t.InRange
  deleted : ∀ t ∈ h.deletedAt, t.InRange

lemma Header.tagSet_of_pairwise {tags : List String} (h : tags.Pairwise (· < ·)) :
    tagSet tags = tags := by
  have hsorted : Dict.Sorted (tags.map fun tag => (tag, ())) := List.pairwise_map.2 h
  rw [tagSet, Dict.ofList_sorted hsorted, Dict.keys, List.map_map]
  exact List.map_id tags

namespace Bag

section

variable {o : Option Json}

lemma instant?_written {t : Instant} (h : t.InRange) : instant? (.str t.exact) = some t := by
  rw [instant?, Json.str?, Option.bind_some, Instant.parseLenient?_exact h]

lemma bind_instant? {t : Instant} (ho : o = some (.str t.exact)) (h : t.InRange) :
    o.bind instant? = some t := by
  rw [ho, Option.bind_some, instant?_written h]

lemma optional?_instant? {x : Option Instant}
    (ho : o = some (.ofOption (fun t => .str t.exact) x)) (h : ∀ t ∈ x, t.InRange) :
    Json.optional? instant? o = some x :=
  Json.optional?_ofOption ho fun t ht => instant?_written (h t ht)

end

lemma headerOfFields?_written {fields : List (String × Json)} {h : Header}
    (hfields : ∀ e ∈ h.toFields Instant.exact, fields.lookup e.1 = some e.2) (hh : h.Sound) :
    headerOfFields? fields = some h := by
  simp only [Header.toFields, List.forall_mem_cons] at hfields
  obtain ⟨hid, hname, hversion, hvisibility, hstate, howner, hcreated, hupdated, hpublished,
    hdeleted, htags, hdescription, -⟩ := hfields
  have htagged : Json.defaulted? (Json.listOf? Json.str?) [] (fields.lookup "tags") =
      some h.tags := by
    rw [htags, Json.ofStrings, Json.defaulted?]
    exact Json.listOf?_arr fun _ _ => rfl
  rw [headerOfFields?]
  refine (bind_of_eq_some (Json.bind_str? hid)).trans ?_
  refine (bind_of_eq_some (Json.bind_str? hname)).trans ?_
  refine (bind_of_eq_some (Json.bind_str? hversion)).trans ?_
  refine (bind_of_eq_some (Json.bind_constant? hvisibility (Visibility.ofName?_name _))).trans ?_
  refine (bind_of_eq_some (Json.bind_constant? hstate (Lifecycle.ofName?_name _))).trans ?_
  refine (bind_of_eq_some (Json.optional?_str? howner)).trans ?_
  refine (bind_of_eq_some (bind_instant? hcreated hh.created)).trans ?_
  refine (bind_of_eq_some (bind_instant? hupdated hh.updated)).trans ?_
  refine (bind_of_eq_some (optional?_instant? hpublished hh.published)).trans ?_
  refine (bind_of_eq_some (optional?_instant? hdeleted hh.deleted)).trans ?_
  refine (bind_of_eq_some htagged).trans ?_
  refine (bind_of_eq_some (Json.optional?_str? hdescription)).trans ?_
  rw [Header.tagSet_of_pairwise hh.tags]
  rfl

structure Sound (b : Bag) : Prop where
  header : b.toHeader.Sound
  sizes : ∀ e ∈ b.blobs, ∀ blob ∈ e.2, blob.size < UInt64.size

inductive WellFormed : Bag → Prop
  | intro {b : Bag} (own : b.Sound) (nested : ∀ y, .expanded y ∈ b.entries → WellFormed y) :
      WellFormed b

def jsonFields (b : Bag) : List (String × Json) :=
  b.toHeader.toFields Instant.exact ++ [("type_name", .str b.typeName),
    ("type_version", .str b.typeVersion),
    ("properties", .obj (Dict.mapValues (·.toJson) b.properties)),
    ("blobs", .obj (Dict.mapValues (fun bs => .arr (bs.map (·.toJson))) b.blobs)),
    ("dependencies", .obj (entriesToJson b.dependencies))]

lemma toJson_eq (b : Bag) : b.toJson = .record b.jsonFields := by
  obtain ⟨header, typeName, typeVersion, properties, blobs, dependencies⟩ := b
  rw [toJson]
  rfl

lemma nodup_jsonFields (b : Bag) : (Dict.keys b.jsonFields).Nodup := by
  simp [jsonFields, Header.toFields]

lemma shallowOfFields?_written {b : Bag} {fields : List (String × Json)}
    (hfields : ∀ e ∈ b.jsonFields, fields.lookup e.1 = some e.2) (hb : b.Sound) :
    shallowOfFields? fields = some { b with dependencies := [] } := by
  rw [jsonFields, List.forall_mem_append] at hfields
  obtain ⟨hheader, hfields⟩ := hfields
  simp only [List.forall_mem_cons] at hfields
  obtain ⟨hname, hversion, hproperties, hblobs, -⟩ := hfields
  have hvalues : Json.defaulted? (Json.dictOf? BagValue.ofJson?) [] (fields.lookup "properties") =
      some b.properties := by
    rw [hproperties, Json.defaulted?]
    exact Json.dictOf?_obj fun e _ => e.2.ofJson?_written
  have hlists : Json.defaulted? (Json.dictOf? (Json.listOf? Blob.ofJson?)) []
      (fields.lookup "blobs") = some b.blobs := by
    rw [hblobs, Json.defaulted?]
    exact Json.dictOf?_obj fun e he => Json.listOf?_arr fun x hx =>
      Blob.ofJson?_written (hb.sizes e he x hx)
  rw [shallowOfFields?]
  refine (bind_of_eq_some (headerOfFields?_written hheader hb.header)).trans ?_
  refine (bind_of_eq_some (Json.bind_str? hname)).trans ?_
  refine (bind_of_eq_some (Json.bind_str? hversion)).trans ?_
  refine (bind_of_eq_some hvalues).trans <| (bind_of_eq_some hlists).trans ?_
  rfl

section

variable {es : List (DependencyEntry Bag)} {d : List (String × List (DependencyEntry Bag))}

lemma toJson_ne_str (b : Bag) (s : String) : b.toJson ≠ .str s := by
  rw [toJson_eq, Json.record]
  exact fun h => by cases h

lemma entryList?_written (h : ∀ y, .expanded y ∈ es → ofJson? y.toJson = some y) :
    entryList? (entryListToJson es) = some es := by
  induction es with
  | nil => rw [entryListToJson, entryList?]
  | cons e es ih =>
    have hrest := ih fun y hy => h y (List.mem_cons_of_mem _ hy)
    cases e with
    | id id =>
      rw [entryListToJson, entryList?]
      exact bind_of_eq_some hrest
    | expanded y =>
      rw [entryListToJson, entryList?]
      · refine (bind_of_eq_some (h y List.mem_cons_self)).trans ?_
        exact bind_of_eq_some hrest
      · exact toJson_ne_str y

lemma entriesByName?_written
    (h : ∀ e ∈ d, ∀ y, .expanded y ∈ e.2 → ofJson? y.toJson = some y) :
    entriesByName? (entriesToJson d) = some d := by
  induction d with
  | nil => rw [entriesToJson, entriesByName?]
  | cons e d ih =>
    obtain ⟨name, es⟩ := e
    have hentries : entries? (.arr (entryListToJson es)) = some es := by
      rw [entries?]
      exact entryList?_written (h _ List.mem_cons_self)
    rw [entriesToJson, entriesByName?]
    refine (bind_of_eq_some hentries).trans ?_
    exact bind_of_eq_some (ih fun e he => h e (List.mem_cons_of_mem _ he))

lemma dependenciesIn?_written {b : Bag} {fields : List (String × Json)}
    (hfields : ∀ e ∈ b.jsonFields, fields.lookup e.1 = some e.2)
    (h : ∀ y, .expanded y ∈ b.entries → ofJson? y.toJson = some y) :
    dependenciesIn? fields = some b.dependencies := by
  have hmem : ("dependencies", Json.obj (entriesToJson b.dependencies)) ∈ b.jsonFields :=
    List.mem_append_right _ (by simp)
  have hlookup := hfields _ hmem
  have hsearch (key : String) (j : Json) (fields : List (String × Json)) :
      dependenciesIn? ((key, j) :: fields) =
        if "dependencies" = key then dependencies? j else dependenciesIn? fields := by
    simp only [dependenciesIn?, eq_comm]
  rw [Dict.search_of_lookup hsearch hlookup, dependencies?]
  exact entriesByName?_written fun e he y hy => h y (mem_entries.2 ⟨e.1, e.2, he, hy⟩)

end

/-- Nothing is lost at any depth: ids stay ids, bags stay bags, and what is absent stays absent. -/
theorem ofJson?_toJson {b : Bag} (h : b.WellFormed) : ofJson? b.toJson = some b := by
  -- The reader of a bag reads the bags within it too, so the induction is on those.
  induction h with
  | @intro b own _ ih =>
    have hfields := Json.lookup_record b.nodup_jsonFields
    rw [toJson_eq, Json.record, ofJson?]
    refine (bind_of_eq_some (shallowOfFields?_written hfields own)).trans ?_
    refine (bind_of_eq_some (dependenciesIn?_written hfields ih)).trans ?_
    -- Bags lie within bags, so that one equals its own fields only by cases.
    cases b
    rfl

namespace Sample

def note : Bag where
  id := "n"
  name := "note"
  version := "1.0.0"
  visibility := .personal
  state := .creating
  owner := none
  createdAt := ⟨0, 0⟩
  updatedAt := ⟨1704067199, 1500000000⟩
  publishedAt := none
  deletedAt := none
  tags := []
  description := none
  typeName := "Note"
  typeVersion := "1.0.0"
  properties := []
  blobs := []
  dependencies := [("next", [.id "m"])]

def page : Bag :=
  { note with id := "p", dependencies := [("notes", [.id "l", .expanded note])] }

def scan : Blob where
  size := 18446744073709551615
  checksum := none
  itemKey := "v.scans"
  locations := [⟨"memory://a", .active⟩, ⟨"memory://b", .pendingDelete⟩, ⟨"memory://c", .deleted⟩]

def volume : Bag :=
  { note with
    id := "v"
    owner := some "o"
    publishedAt := some ⟨-62198755200, 120⟩
    tags := ["new", "rare"]
    properties := [("pages", ⟨.int, .int 2⟩), ("title", ⟨.string, .null⟩)]
    blobs := [("scans", [scan])]
    dependencies := [("first", [.expanded page]), ("rest", [.id "q", .expanded page, .id "v"])] }

lemma inRange_zero : Instant.InRange ⟨0, 0⟩ :=
  ⟨Or.inl (by decide), by decide, by decide⟩

lemma inRange_leap : Instant.InRange ⟨1704067199, 1500000000⟩ :=
  ⟨Or.inr (by decide), by decide, by decide⟩

lemma inRange_before : Instant.InRange ⟨-62198755200, 120⟩ :=
  ⟨Or.inl (by decide), by decide, by decide⟩

lemma sound_note (id : String) (dependencies : List (String × List (DependencyEntry Bag))) :
    Sound { note with id := id, dependencies := dependencies } :=
  ⟨⟨List.Pairwise.nil, inRange_zero, inRange_leap, nofun, nofun⟩, nofun⟩

lemma wellFormed_volume : volume.WellFormed := by
  have hnote : note.WellFormed := by
    refine .intro (sound_note _ _) fun y hy => ?_
    simp [entries, note] at hy
  have hpage : page.WellFormed := by
    refine .intro (sound_note _ _) fun y hy => ?_
    obtain rfl : y = note := by simpa [entries, page] using hy
    exact hnote
  refine .intro ⟨⟨by decide, inRange_zero, inRange_leap, ?_, ?_⟩, ?_⟩ fun y hy => ?_
  · intro t ht
    obtain rfl := Option.some.inj ht
    exact inRange_before
  · intro t ht
    cases ht
  · intro e he x hx
    obtain rfl := List.mem_singleton.1 he
    obtain rfl := List.mem_singleton.1 hx
    decide
  · obtain rfl : y = page := by simpa [entries, volume] using hy
    exact hpage

theorem ofJson?_toJson_volume : volume.WellFormed ∧ ofJson? volume.toJson = some volume :=
  ⟨wellFormed_volume, ofJson?_toJson wellFormed_volume⟩

end Sample

end Bag

end TypedArtifacts
