import SiteAtlas.Proofs.Schema.Cardinalities
import SiteAtlas.Proofs.Schema.TaggedFields

/-! # Two counts of the relations of a schema

The graph of a schema tells relations apart by their names and looks at both fields of each. The
overview tells them apart by the two models and looks at the tagged fields alone. So both count the
same exactly if no two models share more than one relation, every list is tagged, and every relation
has a tagged field.
-/

namespace SiteAtlas.Schema

open Text

/-! ## The tagged sides of a relation -/

/-- A side that is not seen can only make the cardinality less, and does so exactly if it is a
list. -/
theorem sidesCardinality_seen : ∀ list list' seen seen' : Bool, seen = true ∨ seen' = true →
    (sidesCardinality ((if seen then [list] else []) ++ if seen' then [list'] else [])).rank ≤
        (Cardinality.ofSides list list').rank ∧
      (sidesCardinality ((if seen then [list] else []) ++ if seen' then [list'] else []) =
          .ofSides list list' ↔
        (list = true → seen = true) ∧ (list' = true → seen' = true)) := by
  decide

section Sides

variable {schema : Schema} {tagged : FieldAt → Bool} {a b : FieldAt}

/-- The sides of a relation have one key. -/
theorem key_side_eq (model : b.model.name = a.field.type) (type : b.field.type = a.model.name) :
    b.side.key = a.side.key := by
  have same := ordered_eq_iff.mpr (.inr ⟨model, type⟩)
  rw [FieldAt.side, FieldAt.side, RelationLine.key, RelationLine.key, same]

/-- Under the key of a relation there are its tagged sides, if no other one has that key. -/
theorem keyCardinality_eq (member : a ∈ fieldsAt schema) (member' : b ∈ fieldsAt schema)
    (partners : Partners schema a b)
    (only : ∀ c ∈ fieldsAt schema, tagged c = true → c.side.key = a.side.key → c = a ∨ c = b) :
    keyCardinality (taggedSides schema tagged) a.side.key =
      sidesCardinality ((if tagged a then [a.field.isList] else []) ++
        if tagged b then [b.field.isList] else []) := by
  have distinct : [a, b].Nodup := by simpa using Ne.symm partners.other
  have back := key_side_eq partners.model partners.type
  have sides : ((fieldsAt schema).filter fun c =>
      ((·.key == a.side.key) ∘ FieldAt.side) c && tagged c).Perm ([a, b].filter tagged) := by
    refine (List.perm_ext_iff_of_nodup ((nodup_fieldsAt schema).filter _)
      (distinct.filter _)).mpr fun c => ?_
    simp only [List.mem_filter, Function.comp_apply, Bool.and_eq_true, beq_iff_eq, List.mem_cons,
      List.not_mem_nil, or_false]
    constructor
    · rintro ⟨isMember, same, isTagged⟩
      exact ⟨only c isMember isTagged same, isTagged⟩
    · rintro ⟨rfl | rfl, isTagged⟩
      · exact ⟨member, rfl, isTagged⟩
      · exact ⟨member', back, isTagged⟩
  have lists := (sides.map FieldAt.side).map RelationLine.isList
  rw [keyCardinality, taggedSides, List.filter_map, List.filter_filter, sidesCardinality,
    lists.all_eq, lists.any_eq, lists.length_eq, ← sidesCardinality]
  cases seen : tagged a <;> cases seen' : tagged b <;> simp [seen, seen', FieldAt.side]

end Sides

/-! ## Both counts -/

/-- Whether two models share at most one relation. -/
def SharesOneRelation (schema : Schema) : Prop :=
  ∀ a ∈ fieldsAt schema, a.field.kind = .object → ∀ b ∈ fieldsAt schema, b.field.kind = .object →
    b.Joins a.model.name a.field.type → b.field.relationName = a.field.relationName

/-- Whether every relation has a field that is tagged. -/
def EveryRelationTagged (schema : Schema) (tagged : FieldAt → Bool) : Prop :=
  ∀ a ∈ fieldsAt schema, a.field.kind = .object → ∃ b ∈ fieldsAt schema,
    b.field.kind = .object ∧ b.field.relationName = a.field.relationName ∧ tagged b = true

/-- Whether every list of a relation is tagged. -/
def EveryListTagged (schema : Schema) (tagged : FieldAt → Bool) : Prop :=
  ∀ a ∈ fieldsAt schema, a.field.kind = .object → a.field.isList = true → tagged a = true

instance (schema : Schema) : Decidable (SharesOneRelation schema) :=
  inferInstanceAs (Decidable (∀ a ∈ fieldsAt schema, _))

instance (schema : Schema) (tagged : FieldAt → Bool) :
    Decidable (EveryRelationTagged schema tagged) :=
  inferInstanceAs (Decidable (∀ a ∈ fieldsAt schema, _))

instance (schema : Schema) (tagged : FieldAt → Bool) : Decidable (EveryListTagged schema tagged) :=
  inferInstanceAs (Decidable (∀ a ∈ fieldsAt schema, _))

/-- What the two counts rely on: fields that refer to models do so by names without the mark of
keys, carry the name of their relation, and are the only ones that are tagged. -/
structure Countable (schema : Schema) (tagged : FieldAt → Bool) : Prop where
  distinct : (schema.models.map (·.name)).Nodup
  both : DeclaredOnBothSides schema
  plain : ∀ a ∈ fieldsAt schema, a.field.kind = .object →
    '-' ∉ a.model.name.toList ∧ '-' ∉ a.field.type.toList
  named : ∀ a ∈ fieldsAt schema, a.field.kind = .object →
    a.field.relationName = some a.relationKey
  tags : ∀ a ∈ fieldsAt schema, tagged a = true → a.field.kind = .object

namespace Countable

variable {schema : Schema} {tagged : FieldAt → Bool} (countable : Countable schema tagged)
include countable

omit countable in
/-- The keys under which the overview counts the tagged sides. -/
theorem mem_keys_iff {key : String} :
    key ∈ keysOf (taggedSides schema tagged) ↔
      ∃ c ∈ fieldsAt schema, tagged c = true ∧ c.side.key = key := by
  simp [keysOf, taggedSides, List.mem_eraseDups, and_assoc]

section Fields

variable {a b : FieldAt} (member : a ∈ fieldsAt schema) (object : a.field.kind = .object)
  (member' : b ∈ fieldsAt schema) (object' : b.field.kind = .object)
include member object member' object'

theorem key_side_eq_iff : b.side.key = a.side.key ↔ b.Joins a.model.name a.field.type :=
  key_eq_iff (countable.plain b member' object') (countable.plain a member object)

theorem relationName_eq_iff :
    b.field.relationName = a.field.relationName ↔ b.relationKey = a.relationKey := by
  rw [countable.named a member object, countable.named b member' object', Option.some.injEq]

/-- The fields of one relation have one key. -/
theorem key_side_of_relationName (same : b.field.relationName = a.field.relationName) :
    b.side.key = a.side.key := by
  obtain ⟨c, -, -, -, model, type, only⟩ := countable.both a member object
  rcases (only b member' object').mp same with rfl | rfl
  · rfl
  · exact key_side_eq model type

end Fields

/-- Every field that refers to a model belongs to a relation of the graph. -/
theorem exists_relation {a : FieldAt} (member : a ∈ fieldsAt schema)
    (object : a.field.kind = .object) : ∃ r ∈ relations schema,
      r.field.relationName = a.field.relationName ∧ r.side.key = a.side.key := by
  obtain ⟨r, isRelation, same⟩ := exists_mem_relations member object
  obtain ⟨member', object'⟩ := mem_fieldsAt_of_mem_relations isRelation
  have sameName := (countable.relationName_eq_iff member object member' object').mpr same
  exact ⟨r, isRelation, sameName,
    countable.key_side_of_relationName member object member' object' sameName⟩

/-- Two relations of the graph with one name are the same. -/
theorem eq_of_relationName_eq {r s : FieldAt} (isRelation : r ∈ relations schema)
    (isRelation' : s ∈ relations schema)
    (same : s.field.relationName = r.field.relationName) : s = r := by
  obtain ⟨member, object⟩ := mem_fieldsAt_of_mem_relations isRelation
  obtain ⟨member', object'⟩ := mem_fieldsAt_of_mem_relations isRelation'
  exact List.inj_on_of_nodup_map (nodup_relationKeys schema) isRelation' isRelation
    ((countable.relationName_eq_iff member object member' object').mp same)

/-- The keys of tagged sides are keys of relations. -/
theorem keys_subset :
    keysOf (taggedSides schema tagged) ⊆ (relations schema).map (·.side.key) := by
  intro key isKey
  obtain ⟨c, member, isTagged, rfl⟩ := mem_keys_iff.mp isKey
  obtain ⟨r, isRelation, -, same⟩ :=
    countable.exists_relation member (countable.tags c member isTagged)
  exact List.mem_map.mpr ⟨r, isRelation, same⟩

/-- The overview sees every relation under a key of its own exactly if no two models share two of
them and each has a tagged field. -/
theorem keys_perm_iff :
    (keysOf (taggedSides schema tagged)).Perm ((relations schema).map (·.side.key)) ↔
      SharesOneRelation schema ∧ EveryRelationTagged schema tagged := by
  constructor
  · intro keys
    have distinct : ((relations schema).map (·.side.key)).Nodup :=
      keys.nodup_iff.mp (nodup_keysOf _)
    have shares : SharesOneRelation schema := by
      intro a member object b member' object' joins
      obtain ⟨r, isRelation, sameName, sameKey⟩ := countable.exists_relation member object
      obtain ⟨s, isRelation', sameName', sameKey'⟩ := countable.exists_relation member' object'
      have key := (countable.key_side_eq_iff member object member' object').mpr joins
      obtain rfl : s = r := List.inj_on_of_nodup_map distinct isRelation' isRelation
        (sameKey'.trans (key.trans sameKey.symm))
      exact sameName'.symm.trans sameName
    refine ⟨shares, fun a member object => ?_⟩
    obtain ⟨r, isRelation, -, sameKey⟩ := countable.exists_relation member object
    obtain ⟨c, member', isTagged, key⟩ :=
      mem_keys_iff.mp (keys.mem_iff.mpr (List.mem_map.mpr ⟨r, isRelation, rfl⟩))
    have object' := countable.tags c member' isTagged
    have joins := (countable.key_side_eq_iff member object member' object').mp (key.trans sameKey)
    exact ⟨c, member', object', shares a member object c member' object' joins, isTagged⟩
  · rintro ⟨shares, seen⟩
    have distinct : ((relations schema).map (·.side.key)).Nodup := by
      refine List.Nodup.map_on (fun r isRelation s isRelation' key => ?_)
        (List.Nodup.of_map _ (nodup_relationKeys schema))
      obtain ⟨member, object⟩ := mem_fieldsAt_of_mem_relations isRelation
      obtain ⟨member', object'⟩ := mem_fieldsAt_of_mem_relations isRelation'
      have joins := (countable.key_side_eq_iff member' object' member object).mp key
      exact countable.eq_of_relationName_eq isRelation' isRelation
        (shares s member' object' r member object joins)
    refine (List.perm_ext_iff_of_nodup (nodup_keysOf _) distinct).mpr fun key =>
      ⟨fun isKey => countable.keys_subset isKey, fun isKey => ?_⟩
    obtain ⟨r, isRelation, rfl⟩ := List.mem_map.mp isKey
    obtain ⟨member, object⟩ := mem_fieldsAt_of_mem_relations isRelation
    obtain ⟨c, member', object', same, isTagged⟩ := seen r member object
    exact mem_keys_iff.mpr ⟨c, member', isTagged,
      countable.key_side_of_relationName member object member' object' same⟩

/-- If every relation has a key of its own, its class under that key is at most its cardinality, and
is its cardinality exactly if its lists are tagged. -/
theorem keyCardinality_relation (shares : SharesOneRelation schema)
    (seen : EveryRelationTagged schema tagged) {r : FieldAt} (isRelation : r ∈ relations schema) :
    (keyCardinality (taggedSides schema tagged) r.side.key).rank ≤ (r.cardinality schema).rank ∧
      (keyCardinality (taggedSides schema tagged) r.side.key = r.cardinality schema ↔
        ∀ c ∈ fieldsAt schema, c.field.kind = .object →
          c.field.relationName = r.field.relationName → c.field.isList = true →
            tagged c = true) := by
  obtain ⟨member, object⟩ := mem_fieldsAt_of_mem_relations isRelation
  obtain ⟨b, member', partners⟩ := countable.both r member object
  have only : ∀ c ∈ fieldsAt schema, tagged c = true → c.side.key = r.side.key →
      c = r ∨ c = b := by
    intro c isMember isTagged key
    have isObject := countable.tags c isMember isTagged
    have joins := (countable.key_side_eq_iff member object isMember isObject).mp key
    exact (partners.only c isMember isObject).mp
      (shares r member object c isMember isObject joins)
  have isSeen : tagged r = true ∨ tagged b = true := by
    obtain ⟨c, isMember, isObject, same, isTagged⟩ := seen r member object
    rcases (partners.only c isMember isObject).mp same with rfl | rfl
    · exact .inl isTagged
    · exact .inr isTagged
  have lists : (∀ c ∈ fieldsAt schema, c.field.kind = .object →
      c.field.relationName = r.field.relationName → c.field.isList = true → tagged c = true) ↔
      (r.field.isList = true → tagged r = true) ∧ (b.field.isList = true → tagged b = true) := by
    have ofB := (partners.only b member' partners.object).mpr (.inr rfl)
    constructor
    · exact fun each => ⟨each r member object rfl, each b member' partners.object ofB⟩
    · rintro ⟨first, second⟩ c isMember isObject same
      rcases (partners.only c isMember isObject).mp same with rfl | rfl
      · exact first
      · exact second
  rw [keyCardinality_eq member member' partners only,
    cardinality_eq countable.distinct member member' partners, lists]
  exact sidesCardinality_seen _ _ _ _ isSeen

/-- Every list is tagged exactly if those of every relation of the graph are. -/
theorem everyListTagged_iff : EveryListTagged schema tagged ↔ ∀ r ∈ relations schema,
    ∀ c ∈ fieldsAt schema, c.field.kind = .object →
      c.field.relationName = r.field.relationName → c.field.isList = true → tagged c = true := by
  constructor
  · exact fun lists r _ c member object _ isList => lists c member object isList
  · intro each c member object isList
    obtain ⟨r, isRelation, same, -⟩ := countable.exists_relation member object
    exact each r isRelation c member object same.symm isList

/-- Both count the same exactly if no two models share more than one relation, every list is tagged,
and every relation has a tagged field. -/
theorem cardinalities_eq_iff :
    cardinalities (taggedSides schema tagged) = graphCardinalities schema ↔
      SharesOneRelation schema ∧ EveryListTagged schema tagged ∧
        EveryRelationTagged schema tagged := by
  rw [cardinalities_eq, graphCardinalities_eq, countable.everyListTagged_iff]
  constructor
  · intro same
    -- As many keys as relations, so every relation has a key of its own.
    have many : (keysOf (taggedSides schema tagged)).length = (relations schema).length := by
      have classes := length_eq_countsOf
        ((keysOf (taggedSides schema tagged)).map (keyCardinality (taggedSides schema tagged)))
      rw [same, ← length_eq_countsOf, List.length_map, List.length_map] at classes
      exact classes
    have keys : (keysOf (taggedSides schema tagged)).Perm ((relations schema).map (·.side.key)) :=
      (List.subperm_of_subset (nodup_keysOf _) countable.keys_subset).perm_of_length_le
        (by rw [List.length_map, many])
    obtain ⟨shares, seen⟩ := countable.keys_perm_iff.mp keys
    -- The sums of the ranks agree, so no rank is less than the other one.
    have sums : ((relations schema).map fun r =>
        (keyCardinality (taggedSides schema tagged) r.side.key).rank).sum =
        ((relations schema).map fun r => (r.cardinality schema).rank).sum := by
      have classes := countsOf_eq_of_perm (keys.map (keyCardinality (taggedSides schema tagged)))
      rw [same, List.map_map] at classes
      have left := sum_rank_eq_countsOf
        ((relations schema).map (keyCardinality (taggedSides schema tagged) ∘ fun r => r.side.key))
      rw [← classes, ← sum_rank_eq_countsOf, List.map_map, List.map_map] at left
      exact left
    have equal := eq_of_sum_eq
      (fun r isRelation => (countable.keyCardinality_relation shares seen isRelation).1) sums
    exact ⟨shares, fun r isRelation =>
      (countable.keyCardinality_relation shares seen isRelation).2.mp
        (Cardinality.rank_injective (equal r isRelation)), seen⟩
  · rintro ⟨shares, lists, seen⟩
    have keys := countable.keys_perm_iff.mpr ⟨shares, seen⟩
    rw [countsOf_eq_of_perm (keys.map (keyCardinality (taggedSides schema tagged))), List.map_map]
    refine congrArg countsOf (List.map_congr_left fun r isRelation => ?_)
    exact (countable.keyCardinality_relation shares seen isRelation).2.mpr (lists r isRelation)

end Countable

/-! ## The counts of a text -/

section Text

variable {text : String} {blocks : List Block} (made : IsMadeOf text blocks)
  (plain : ∀ b ∈ blocks, b.Plain)
include made plain

/-- The names of models are words, which hold no mark of keys. -/
theorem IsMadeOf.dash_notMem_name {m : Model} (isModel : m ∈ (ofText text).models) :
    '-' ∉ m.name.toList := by
  obtain ⟨models, enums, same⟩ := made.exists_models
  rw [same] at isModel
  obtain ⟨b, isBlock, rfl⟩ := List.mem_map.mp isModel
  have opens := (plain b (List.mem_of_mem_filter isBlock)).header
  intro member
  rw [Model.resolve, b.name_model] at member
  exact absurd (isWord_of_header? opens _ member) (by decide)

/-- The counts of a text of blocks rely on nothing but distinct names, relations that are declared
on both sides, and tags at fields that refer to models. -/
theorem IsMadeOf.countable (distinct : ((ofText text).models.map (·.name)).Nodup)
    (both : DeclaredOnBothSides (ofText text))
    (tags : ∀ a ∈ fieldsAt (ofText text), taggedAt blocks a = true → a.field.kind = .object) :
    Countable (ofText text) (taggedAt blocks) where
  distinct := distinct
  both := both
  tags := tags
  named _ member object := relationName_eq member object
  plain a member object := by
    obtain ⟨isModel, isField⟩ := mem_of_mem_fieldsAt member
    have refers := (mem_fields_ofText isModel isField).1.mp object
    obtain ⟨m, isModel', type⟩ := List.mem_map.mp refers
    refine ⟨made.dash_notMem_name plain isModel, ?_⟩
    rw [← type]
    exact made.dash_notMem_name plain isModel'

end Text

/-- In a text of blocks with distinct names, relations that are declared on both sides, and tags at
fields that refer to models, the overview counts as many relations of each cardinality as the graph
exactly if no two models share more than one relation, every list is tagged, and every relation has
a tagged field. -/
theorem relation_counts_agree_iff {text : String} {blocks : List Block}
    (made : IsMadeOf text blocks) (plain : ∀ b ∈ blocks, b.Plain)
    (distinct : ((ofText text).models.map (·.name)).Nodup)
    (both : DeclaredOnBothSides (ofText text))
    (tags : ∀ a ∈ fieldsAt (ofText text), taggedAt blocks a = true → a.field.kind = .object) :
    cardinalities (tally text).relations = graphCardinalities (ofText text) ↔
      SharesOneRelation (ofText text) ∧ EveryListTagged (ofText text) (taggedAt blocks) ∧
        EveryRelationTagged (ofText text) (taggedAt blocks) := by
  rw [made.relations_tally_eq_taggedSides plain]
  exact (made.countable plain distinct both tags).cardinalities_eq_iff

/-! ## Texts with and without all tags -/

/-- The block of a model, each line given by its words. -/
def modelBlock (name : String) (lines : List (List String)) : Block where
  kind := .model
  name := name
  header := "model ".toList ++ name.toList ++ " \x7b".toList
  body := lines.map fun words => [' '].intercalate (words.map String.toList)
  closing := ['}']

/-- The text of some blocks, line by line. -/
def textOf (blocks : List Block) : String :=
  String.ofList ((blocks.flatMap Block.lines).flatMap (· ++ ['\n']))

theorem toList_textOf (blocks : List Block) :
    (textOf blocks).toList = (blocks.flatMap Block.lines).flatMap (· ++ ['\n']) :=
  String.toList_ofList

/-- People who report to one another and share their tags. -/
def teamBlocks : List Block :=
  [modelBlock "User" [["boss", "User?", "@relation(\"Reports\")"],
      ["team", "User[]", "@relation(\"Reports\")"], ["tags", "Tag[]", "@relation"]],
    modelBlock "Tag" [["users", "User[]", "@relation"]]]

/-- In the team every list is tagged, so both count one relation from one to many and one from many
to many. -/
theorem relation_counts_agree_in_team :
    IsMadeOf (textOf teamBlocks) teamBlocks ∧ (∀ b ∈ teamBlocks, b.Plain) ∧
    ((ofText (textOf teamBlocks)).models.map (·.name)).Nodup ∧
    DeclaredOnBothSides (ofText (textOf teamBlocks)) ∧
    (∀ a ∈ fieldsAt (ofText (textOf teamBlocks)),
      taggedAt teamBlocks a = true → a.field.kind = .object) ∧
    graphCardinalities (ofText (textOf teamBlocks)) = ⟨0, 1, 1⟩ ∧
    cardinalities (tally (textOf teamBlocks)).relations = ⟨0, 1, 1⟩ := by
  have plain : ∀ b ∈ teamBlocks, b.Plain := by decide +kernel
  have made : IsMadeOf (textOf teamBlocks) teamBlocks := by
    refine ⟨?_, ?_, fun b isBlock => (plain b isBlock).toCloses⟩
    · rw [toList_textOf]
      decide +kernel
    · rw [toList_textOf]
      decide +kernel
  have read : ((ofText (textOf teamBlocks)).models.map (·.name)).Nodup ∧
      DeclaredOnBothSides (ofText (textOf teamBlocks)) ∧
      (∀ a ∈ fieldsAt (ofText (textOf teamBlocks)),
        taggedAt teamBlocks a = true → a.field.kind = .object) ∧
      graphCardinalities (ofText (textOf teamBlocks)) = ⟨0, 1, 1⟩ := by
    rw [ofText, toList_textOf]
    decide +kernel
  obtain ⟨distinct, both, tags, counts⟩ := read
  have complete : SharesOneRelation (ofText (textOf teamBlocks)) ∧
      EveryListTagged (ofText (textOf teamBlocks)) (taggedAt teamBlocks) ∧
      EveryRelationTagged (ofText (textOf teamBlocks)) (taggedAt teamBlocks) := by
    rw [ofText, toList_textOf]
    decide +kernel
  refine ⟨made, plain, distinct, both, tags, counts, ?_⟩
  rw [← counts]
  exact (relation_counts_agree_iff made plain distinct both tags).mpr complete

/-- The posts of a blog, of which the field of the author alone is tagged. -/
def postBlocks : List Block :=
  [modelBlock "User" [["id", "Int", "@id"], ["posts", "Post[]"]],
    modelBlock "Post" [["id", "Int", "@id"],
      ["author", "User", "@relation(fields:", "[authorId],", "references:", "[id])"],
      ["authorId", "Int"]]]

/-- The list of posts is not tagged, so the overview takes for one to one what the graph has as one
to many. -/
theorem relation_counts_differ_for_posts :
    IsMadeOf (textOf postBlocks) postBlocks ∧ (∀ b ∈ postBlocks, b.Plain) ∧
    ((ofText (textOf postBlocks)).models.map (·.name)).Nodup ∧
    DeclaredOnBothSides (ofText (textOf postBlocks)) ∧
    graphCardinalities (ofText (textOf postBlocks)) = ⟨0, 1, 0⟩ ∧
    cardinalities (tally (textOf postBlocks)).relations = ⟨1, 0, 0⟩ := by
  have plain : ∀ b ∈ postBlocks, b.Plain := by decide +kernel
  refine ⟨⟨?_, ?_, fun b isBlock => (plain b isBlock).toCloses⟩, plain, ?_⟩
  · rw [toList_textOf]
    decide +kernel
  · rw [toList_textOf]
    decide +kernel
  · rw [ofText, tally, toList_textOf]
    decide +kernel

end SiteAtlas.Schema
