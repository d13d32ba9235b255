import TileAtlas.Format.Terrain
import TileAtlas.Proofs.Json.Compact
import TileAtlas.Proofs.Mesh.Surface

/-!
Contract: what is read of the JSON value that a terrain document becomes.

Owns:
- `TerrainDocument.IsFinite` and `TerrainDocument.IsReadable`, all numbers of a
  document are finite or can be read;
- `TerrainDocument.isWellFormed_toJson`;
- `isSome_ofJson?_toJson_iff`: reading succeeds if every number can be read;
- `eq_of_ofJson?_toJson`: the grid size and the heights come back.

A number that is not finite becomes `null`, which no member takes for a number.
-/

namespace TileAtlas

namespace Shortest

theorem text?_eq_none {format : Binary.Format} {layout : Layout} {value : Binary.Value}
    (infinite : ¬value.IsFinite) : text? format layout value = none := by
  cases value with
  | nan => rfl
  | infinite negative => rfl
  | finite negative significand exponent => exact absurd trivial infinite

end Shortest

namespace JsonValue

theorem ofFloat_eq_null {number : Float} (infinite : ¬(Binary.ofFloat number).IsFinite) :
    ofFloat number = .null := by
  rw [ofFloat, Shortest.ofFloat?, Shortest.text?_eq_none infinite]
  rfl

theorem ofFloat32_eq_null {number : Float32} (infinite : ¬(Binary.ofFloat32 number).IsFinite) :
    ofFloat32 number = .null := by
  rw [ofFloat32, Shortest.ofFloat32?, Shortest.text?_eq_none infinite]
  rfl

theorem isWellFormed_ofDecimal (text : Option String) : (ofDecimal text).IsWellFormed := by
  unfold ofDecimal
  split
  next numeral read =>
    obtain ⟨written, -, read⟩ := Option.bind_eq_some_iff.mp read
    exact .number (Json.Numeral.isWellFormed_of_read? read)
  next => exact .null

theorem isWellFormed_ofNat (count : Nat) : (ofNat count).IsWellFormed :=
  .number (Json.Numeral.isWellFormed_ofNat count)

theorem isWellFormed_map {β : Type} {write : β → JsonValue} {row : List β}
    (each : ∀ entry, (write entry).IsWellFormed) :
    (JsonValue.array (row.map write)).IsWellFormed := by
  refine .array fun item isIn => ?_
  obtain ⟨entry, -, rfl⟩ := List.mem_map.mp isIn
  exact each entry

end JsonValue

namespace TerrainDocument

open JsonValue (ofFloat ofFloat32)

/-- The 64-bit numbers of a document, which stand beside the heights. -/
def numbers (document : TerrainDocument) : List Float :=
  document.vertices ++ document.offset.coordinates ++
    document.boundingBox.least.coordinates ++ document.boundingBox.greatest.coordinates

/-- No number of a document is missing or infinite. -/
structure IsFinite (document : TerrainDocument) : Prop where
  numbers : ∀ number ∈ document.numbers, (Binary.ofFloat number).IsFinite
  heights : ∀ height ∈ document.heightMap, (Binary.ofFloat32 height).IsFinite

/-- Every number of a document is read where it is written. -/
structure IsReadable (document : TerrainDocument) : Prop where
  numbers : ∀ number ∈ document.numbers, (float? (ofFloat number)).isSome
  heights : ∀ height ∈ document.heightMap, (float32? (ofFloat32 height)).isSome

/-- Sizes and vertex numbers lie in the ranges that they are read in. -/
structure CountsFit (document : TerrainDocument) : Prop where
  gridSize : document.gridSize ≤ word64Max
  curtainIndex : document.curtainIndex ≤ word64Max
  indices : ∀ index ∈ document.indices, index ≤ word32Max

/-! ## The value of a document -/

theorem isWellFormed_pointToJson (point : Point3) : (pointToJson point).IsWellFormed := by
  show (JsonValue.array (point.coordinates.map ofFloat)).IsWellFormed
  exact JsonValue.isWellFormed_map fun _ => JsonValue.isWellFormed_ofDecimal _

theorem isWellFormed_memberValues (document : TerrainDocument) :
    ∀ value ∈ document.memberValues, value.IsWellFormed := by
  have box : ∀ point ∈ [pointToJson document.boundingBox.least,
      pointToJson document.boundingBox.greatest], point.IsWellFormed := by
    simp [isWellFormed_pointToJson]
  have decimal : ∀ text, (JsonValue.ofDecimal text).IsWellFormed :=
    JsonValue.isWellFormed_ofDecimal
  have count : ∀ count, (JsonValue.ofNat count).IsWellFormed := JsonValue.isWellFormed_ofNat
  simp only [memberValues, List.forall_mem_cons]
  exact ⟨.text _, .text _, count _, .text _, JsonValue.isWellFormed_map fun _ => decimal _,
    JsonValue.isWellFormed_map count, .text _, isWellFormed_pointToJson _, .array box, count _,
    JsonValue.isWellFormed_map fun _ => decimal _, by simp⟩

theorem isWellFormed_toJson (document : TerrainDocument) : document.toJson.IsWellFormed := by
  refine .object fun member isIn => ?_
  obtain ⟨⟨name, value⟩, isZipped, rfl⟩ := List.mem_map.mp isIn
  exact document.isWellFormed_memberValues value (List.of_mem_zip isZipped).2

/-! ## Members -/

theorem onlyMember?_cons_of_ne {name other : String} (different : other ≠ name) (value : JsonValue)
    (members : List (Option String × JsonValue)) :
    onlyMember? ((some other, value) :: members) name = onlyMember? members name := by
  simp [onlyMember?, different]

theorem onlyMember?_cons_self {name : String} (value : JsonValue)
    {members : List (Option String × JsonValue)} (only : ∀ member ∈ members, member.1 ≠ some name) :
    onlyMember? ((some name, value) :: members) name = some value := by
  have none : members.filter (fun member => member.1 = some name) = [] := by
    rw [List.filter_eq_nil_iff]
    intro member isIn
    simpa using only member isIn
  simp [onlyMember?, none]

/-- Members of different names are found by their names. -/
theorem map_onlyMember? {names : List String} {values : List JsonValue} (nodup : names.Nodup)
    (same : names.length = values.length) :
    names.map (onlyMember? ((names.zip values).map fun member => (some member.1, member.2))) =
      values.map some := by
  induction names generalizing values with
  | nil =>
      obtain rfl : values = [] := List.eq_nil_of_length_eq_zero same.symm
      rfl
  | cons name names inductionHypothesis =>
      cases values with
      | nil => contradiction
      | cons value values =>
          rw [List.nodup_cons] at nodup
          have only : ∀ member ∈ (names.zip values).map fun member => (some member.1, member.2),
              member.1 ≠ some name := by
            intro member isIn sameName
            obtain ⟨⟨other, content⟩, isZipped, rfl⟩ := List.mem_map.mp isIn
            obtain rfl : other = name := by simpa using sameName
            exact nodup.1 (List.of_mem_zip isZipped).1
          rw [List.zip_cons_cons, List.map_cons, List.map_cons, List.map_cons,
            onlyMember?_cons_self value only, ← inductionHypothesis nodup.2 (Nat.succ.inj same)]
          refine congrArg _ (List.map_congr_left fun other isIn => ?_)
          have different : name ≠ other := by rintro rfl; exact nodup.1 isIn
          exact onlyMember?_cons_of_ne different value _

/-! ## Arrays -/

theorem mapM_eq_some {β γ : Type} {item : β → Option γ} {row : List β} {read : List γ}
    (each : row.map item = read.map some) : row.mapM item = some read := by
  induction row generalizing read with
  | nil =>
      obtain rfl : read = [] := by simpa using each.symm
      rfl
  | cons entry row inductionHypothesis =>
      obtain ⟨first, rest, rfl⟩ : ∃ first rest, read = first :: rest :=
        List.exists_cons_of_ne_nil (by rintro rfl; simp at each)
      rw [List.map_cons, List.map_cons, List.cons.injEq] at each
      simp [each.1, inductionHypothesis each.2]

theorem isSome_mapM_iff {β γ : Type} {item : β → Option γ} {row : List β} :
    (row.mapM item).isSome ↔ ∀ entry ∈ row, (item entry).isSome := by
  induction row with
  | nil => simp
  | cons entry row inductionHypothesis =>
      rw [List.forall_mem_cons, ← inductionHypothesis, List.mapM_cons]
      cases item entry <;> cases row.mapM item <;> simp

theorem isSome_array?_map_iff {β γ : Type} {item : JsonValue → Option β} {write : γ → JsonValue}
    {row : List γ} :
    (array? item (.array (row.map write))).isSome ↔ ∀ entry ∈ row, (item (write entry)).isSome := by
  rw [array?, isSome_mapM_iff, List.forall_mem_map]

theorem array?_map {β : Type} {item : JsonValue → Option β} {write : β → JsonValue} {row : List β}
    (each : ∀ entry ∈ row, item (write entry) = some entry) :
    array? item (.array (row.map write)) = some row := by
  rw [array?]
  apply mapM_eq_some
  rw [List.map_map]
  exact List.map_congr_left each

theorem isSome_point?_iff {point : Point3} :
    (point? (pointToJson point)).isSome ↔
      ∀ number ∈ point.coordinates, (float? (ofFloat number)).isSome := by
  obtain ⟨x, y, z⟩ := point
  rw [point?, pointToJson, array?, Point3.coordinates]
  simp only [List.forall_mem_cons, List.mapM_cons, List.mapM_nil]
  cases float? (ofFloat x) <;> cases float? (ofFloat y) <;> cases float? (ofFloat z) <;> simp

theorem isSome_box?_iff {box : Box3} :
    (box? (.array [pointToJson box.least, pointToJson box.greatest])).isSome ↔
      ∀ number ∈ box.least.coordinates ++ box.greatest.coordinates,
        (float? (ofFloat number)).isSome := by
  rw [box?, array?, List.forall_mem_append, ← isSome_point?_iff, ← isSome_point?_iff]
  simp only [List.mapM_cons, List.mapM_nil]
  cases point? (pointToJson box.least) <;> cases point? (pointToJson box.greatest) <;> simp

theorem natural?_ofNat {bound count : Nat} (fits : count ≤ bound) (small : bound ≤ word64Max) :
    natural? bound (.ofNat count) = some count := by
  rw [natural?, JsonValue.ofNat, number?]
  simp [Json.Numeral.number?_ofNat (fits.trans small), Json.Number.natural?, fits]

/-! ## The whole document -/

theorem ofJson?_toJson (document : TerrainDocument) (fits : document.CountsFit) :
    ofJson? document.toJson = do
      let vertices ← array? float? (.array (document.vertices.map ofFloat))
      let offset ← point? (pointToJson document.offset)
      let boundingBox ← box?
        (.array [pointToJson document.boundingBox.least, pointToJson document.boundingBox.greatest])
      let heightMap ← array? float32? (.array (document.heightMap.map ofFloat32))
      return { document with
        vertices := vertices
        offset := offset
        boundingBox := boundingBox
        heightMap := heightMap } := by
  have named : ((memberNames.zip document.memberValues).map fun member =>
      (some member.1, member.2)).all fun member => member.1.isSome := by
    simp
  have found := mapM_eq_some
    (map_onlyMember? (by decide : memberNames.Nodup) (rfl : _ = document.memberValues.length))
  have indices : array? (natural? word32Max) (.array (document.indices.map .ofNat)) =
      some document.indices :=
    array?_map fun index isIn => natural?_ofNat (fits.indices index isIn) (by decide)
  rw [toJson, JsonValue.ofMembers, ofJson?, if_pos named, found]
  simp only [memberValues, ofValues?, JsonValue.ofText, text?, indices,
    natural?_ofNat fits.gridSize le_rfl, natural?_ofNat fits.curtainIndex le_rfl,
    Option.bind_eq_bind, Option.bind_some]

theorem isReadable_iff {document : TerrainDocument} :
    document.IsReadable ↔
      (array? float? (.array (document.vertices.map ofFloat))).isSome ∧
      (point? (pointToJson document.offset)).isSome ∧
      (box? (.array [pointToJson document.boundingBox.least,
        pointToJson document.boundingBox.greatest])).isSome ∧
      (array? float32? (.array (document.heightMap.map ofFloat32))).isSome := by
  rw [isSome_array?_map_iff, isSome_point?_iff, isSome_box?_iff, isSome_array?_map_iff]
  constructor
  · rintro ⟨numbers, heights⟩
    simp only [TerrainDocument.numbers, List.append_assoc, List.forall_mem_append] at numbers
    exact ⟨numbers.1, numbers.2.1, List.forall_mem_append.mpr numbers.2.2, heights⟩
  · rintro ⟨vertices, offset, box, heights⟩
    refine ⟨?_, heights⟩
    simp only [TerrainDocument.numbers, List.append_assoc, List.forall_mem_append]
    exact ⟨vertices, offset, List.forall_mem_append.mp box⟩

theorem isSome_ofJson?_toJson_iff {document : TerrainDocument} (fits : document.CountsFit) :
    (ofJson? document.toJson).isSome ↔ document.IsReadable := by
  rw [ofJson?_toJson document fits, isReadable_iff]
  generalize array? float? _ = vertices
  generalize point? _ = offset
  generalize box? _ = box
  generalize array? float32? _ = heights
  cases vertices <;> cases offset <;> cases box <;> cases heights <;> simp

theorem eq_of_ofJson?_toJson {document read : TerrainDocument} (fits : document.CountsFit)
    (heights : ∀ height ∈ document.heightMap, float32? (ofFloat32 height) = some height)
    (isRead : ofJson? document.toJson = some read) :
    read.gridSize = document.gridSize ∧ read.heightMap = document.heightMap := by
  rw [ofJson?_toJson document fits, array?_map heights] at isRead
  simp only [Option.bind_eq_bind, Option.bind_eq_some_iff] at isRead
  obtain ⟨vertices, -, offset, -, box, -, heightMap, ⟨⟩, ⟨⟩⟩ := isRead
  exact ⟨rfl, rfl⟩

/-! ## Numbers that are not finite -/

theorem float?_eq_none {number : Float} (infinite : ¬(Binary.ofFloat number).IsFinite) :
    float? (ofFloat number) = none := by
  rw [JsonValue.ofFloat_eq_null infinite]
  rfl

theorem float32?_eq_none {number : Float32} (infinite : ¬(Binary.ofFloat32 number).IsFinite) :
    float32? (ofFloat32 number) = none := by
  rw [JsonValue.ofFloat32_eq_null infinite]
  rfl

theorem IsReadable.isFinite {document : TerrainDocument} (readable : document.IsReadable) :
    document.IsFinite where
  numbers := by
    intro number isIn
    by_contra infinite
    simpa [float?_eq_none infinite] using readable.numbers number isIn
  heights := by
    intro height isIn
    by_contra infinite
    simpa [float32?_eq_none infinite] using readable.heights height isIn

end TerrainDocument

end TileAtlas
