import Companions.Proofs.JsonText
import Companions.Wire
import Mathlib.Data.List.Nodup

/-! The records of the backend are read back from what is written of them. -/
namespace Companions

namespace Json

section Rows

variable {members : List (String × Json)}

/-- What an object says about a field that it names at most once. -/
def slotOf (members : List (String × Json)) (name : String) : Slot :=
  match members.find? fun m => m.1 == name with
  | some (_, v) => .given v
  | none => .absent

theorem slotOf_nil (name : String) : slotOf [] name = .absent := rfl

theorem slotOf_cons (key : String) (v : Json) (name : String) :
    slotOf ((key, v) :: members) name = if key = name then .given v else slotOf members name := by
  by_cases h : key = name <;> simp [slotOf, h]

theorem countP_le_one (h : (members.map Prod.fst).Nodup) (name : String) :
    members.countP (fun m => m.1 == name) ≤ 1 := by
  have hc := List.nodup_iff_count_le_one.mp h name
  rwa [List.count_eq_countP, List.countP_map] at hc

theorem row?_object (fields : List String) (h : (members.map Prod.fst).Nodup) :
    row? fields (.object members) = some (slotOf members) := by
  have hany : (fields.any fun f => 2 ≤ members.countP fun m => m.1 == f) = false := by
    simp only [List.any_eq_false, decide_eq_true_eq, Nat.not_le]
    exact fun f _ => Nat.lt_succ_of_le (countP_le_one h f)
  rw [row?, hany]
  rfl

end Rows

section Codecs

variable {α : Type} {encode : α → Json} {decode : Json → Option α}

def isNull : Json → Bool
  | .null => true
  | _ => false

@[simp] theorem isNull_array (vs : List Json) : (Json.array vs).isNull = false := rfl

@[simp] theorem isNull_real (x : Float) : (Json.real x).isNull = false := rfl

/-- What `encode` writes is never null, it has a text of its own, and `decode` reads it back. -/
structure Codec (encode : α → Json) (decode : Json → Option α) : Prop where
  read_back : ∀ a, decode (encode a) = some a
  writable : ∀ a, (encode a).Writable
  not_null : ∀ a, (encode a).isNull = false

theorem within_of_le {lo hi n : Int} (hl : lo ≤ n) (hu : n ≤ hi) :
    Number.within lo hi n = some n :=
  if_pos ⟨hl, hu⟩

theorem codec_int64 : Codec ofInt64 asInt64 where
  read_back n := by
    have hl := n.le_toInt
    have hu := n.toInt_lt
    simp only [asInt64, ofInt64, Number.int64?, Number.signed64?]
    rw [within_of_le (by omega) (by omega), Option.map_some, Int64.ofInt_toInt]
  writable n := by
    have hl := n.le_toInt
    have hu := n.toInt_lt
    simp only [ofInt64, Writable]
    omega
  not_null _ := rfl

theorem codec_int32 : Codec ofInt32 asInt32 where
  read_back n := by
    have hl := n.le_toInt
    have hu := n.toInt_lt
    simp only [asInt32, ofInt32, Number.int32?]
    rw [within_of_le (by omega) (by omega), Option.map_some, Int32.ofInt_toInt]
  writable n := by
    have hl := n.le_toInt
    have hu := n.toInt_lt
    simp only [ofInt32, Writable]
    omega
  not_null _ := rfl

theorem codec_uint64 : Codec ofUInt64 asUInt64 where
  read_back n := by
    have hu := n.toNat_lt
    simp only [asUInt64, ofUInt64, Number.uint64?]
    rw [within_of_le (by omega) (by omega), Option.map_some, Int.toNat_natCast,
      UInt64.ofNat_toNat]
  writable n := by
    have hu := n.toNat_lt
    simp only [ofUInt64, Writable]
    omega
  not_null _ := rfl

theorem codec_uint32 : Codec ofUInt32 asUInt32 where
  read_back n := by
    have hu := n.toNat_lt
    simp only [asUInt32, ofUInt32, Number.uint32?]
    rw [within_of_le (by omega) (by omega), Option.map_some, Int.toNat_natCast,
      UInt32.ofNat_toNat]
  writable n := by
    have hu := n.toNat_lt
    simp only [ofUInt32, Writable]
    omega
  not_null _ := rfl

theorem codec_text : Codec .text asText := ⟨fun _ => rfl, fun _ => trivial, fun _ => rfl⟩

theorem codec_bool : Codec .bool asBool := ⟨fun _ => rfl, fun _ => trivial, fun _ => rfl⟩

theorem codec_moment : Codec Moment.toJson Moment.ofJson? where
  read_back t := dif_pos ⟨t.first_le, t.le_last⟩
  writable t := by
    have hl := t.first_le
    have hu := t.le_last
    simp only [Moment.toJson, Writable]
    omega
  not_null _ := rfl

theorem nullable_of_not_null {v : Json} (h : v.isNull = false) :
    nullable decode v = (decode v).map some := by
  cases v <;> first | rfl | cases h

theorem Codec.nullable_ofOption (h : Codec encode decode) (o : Option α) :
    nullable decode (ofOption encode o) = some o := by
  cases o with
  | none => rfl
  | some a => rw [ofOption, nullable_of_not_null (h.not_null a), h.read_back a, Option.map_some]

theorem Codec.writable_ofOption (h : Codec encode decode) (o : Option α) :
    (ofOption encode o).Writable := by
  cases o with
  | none => trivial
  | some a => exact h.writable a

theorem Codec.isNull_ofOption (h : Codec encode decode) (o : Option α) :
    (ofOption encode o).isNull = o.isNone := by
  cases o with
  | none => rfl
  | some a => exact h.not_null a

theorem asList_map {as : List α} (h : ∀ a ∈ as, decode (encode a) = some a) :
    asList decode (.array (as.map encode)) = some as := by
  simp only [asList]
  induction as with
  | nil => rfl
  | cons a as ih =>
    rw [List.forall_mem_cons] at h
    simp [h.1, ih h.2]

end Codecs

section Objects

variable {α : Type} {read? : Json → Option α} {x : α} {members : List (String × Json)}
  {names nulls : List String}

theorem allWritable_iff (vs : List Json) : AllWritable vs ↔ ∀ v ∈ vs, v.Writable := by
  induction vs with
  | nil => simp [AllWritable]
  | cons v vs ih => simp [AllWritable, ih]

/-- The names marked, in their order. -/
def namesWhere (marks : List (String × Bool)) : List String :=
  marks.flatMap fun m => if m.2 then [m.1] else []

/-- `x` is written as an object that is read back from its text, with the members `names` in their
order, and just `nulls` of them are null. -/
def Represents (read? : Json → Option α) (x : α) (v : Json) (names nulls : List String) : Prop :=
  (Json.parse? v.render).bind read? = some x ∧ ∃ members, v = .object members ∧
    members.map Prod.fst = names ∧ namesWhere (members.map fun m => (m.1, m.2.isNull)) = nulls

theorem Represents.of_members (hr : read? (.object members) = some x)
    (hw : (Json.object members).Writable) (hn : members.map Prod.fst = names)
    (hz : namesWhere (members.map fun m => (m.1, m.2.isNull)) = nulls) :
    Represents read? x (.object members) names nulls := by
  refine ⟨?_, members, rfl, hn, hz⟩
  rw [parse?_render hw]
  exact hr

end Objects

end Json

open Json

namespace Companion

/-- The options of a companion without a value. -/
def absent (c : Companion) : List String :=
  namesWhere [("avatarUrl", c.avatar.isNone), ("sceneId", c.sceneId.isNone),
    ("sceneName", c.sceneName.isNone), ("lastAccessTime", c.lastAccess.isNone),
    ("isOnline", c.isOnline.isNone), ("unreadCount", c.unread.isNone)]

/-- The score is read back when it stands alone. -/
def ScoreKept (c : Companion) : Prop :=
  Json.parse? (render (.real c.score)) = some (.real c.score)

theorem ofJson?_toJson (c : Companion) : ofJson? c.toJson = some c := by
  have hnames : fields.Nodup := by decide
  simp only [ofJson?, toJson]
  rw [row?_object fields (by exact hnames)]
  simp [slotOf_cons, Slot.required, Slot.orElse, codec_int64.read_back, codec_uint64.read_back,
    codec_text.read_back, codec_bool.read_back, codec_int64.nullable_ofOption,
    codec_uint32.nullable_ofOption, codec_text.nullable_ofOption, codec_bool.nullable_ofOption,
    codec_moment.nullable_ofOption, asDouble, asList_map fun s _ => codec_text.read_back s]

theorem writable_toJson {c : Companion} (h : c.ScoreKept) : c.toJson.Writable := by
  unfold ScoreKept at h
  simp [toJson, Writable, MembersWritable, codec_int64.writable, codec_uint64.writable,
    codec_int64.writable_ofOption, codec_uint32.writable_ofOption, codec_text.writable_ofOption,
    codec_bool.writable_ofOption, codec_moment.writable_ofOption, allWritable_iff, h]

theorem represents {c : Companion} (h : c.ScoreKept) :
    Represents ofJson? c c.toJson fields c.absent := by
  refine Represents.of_members (ofJson?_toJson c) (writable_toJson h) rfl ?_
  simp [namesWhere, absent, codec_int64.not_null, codec_uint64.not_null, codec_text.not_null,
    codec_bool.not_null, codec_int64.isNull_ofOption, codec_uint32.isNull_ofOption,
    codec_text.isNull_ofOption, codec_bool.isNull_ofOption, codec_moment.isNull_ofOption]

end Companion

namespace Page

theorem ofJson?_toJson (p : Page) : ofJson? p.toJson = some p := by
  have hnames : fields.Nodup := by decide
  simp only [ofJson?, toJson]
  rw [row?_object fields (by exact hnames)]
  simp [slotOf_cons, Slot.orElse, codec_uint64.read_back,
    asList_map fun c _ => Companion.ofJson?_toJson c]

theorem represents {p : Page} (h : ∀ c ∈ p.companions, c.ScoreKept) :
    Represents ofJson? p p.toJson fields [] := by
  refine Represents.of_members (ofJson?_toJson p) ?_ rfl rfl
  simp only [Writable, MembersWritable, allWritable_iff, List.forall_mem_map,
    codec_uint64.writable, and_true]
  exact fun c hc => Companion.writable_toJson (h c hc)

end Page

namespace Favorite

def absent (f : Favorite) : List String := namesWhere [("sortOrder", f.position.isNone)]

theorem ofJson?_toJson (f : Favorite) : ofJson? f.toJson = some f := by
  have hnames : fields.Nodup := by decide
  simp only [ofJson?, toJson]
  rw [row?_object fields (by exact hnames)]
  simp [slotOf_cons, Slot.orElse, Slot.required, codec_int64.read_back,
    codec_int32.nullable_ofOption]

theorem represents (f : Favorite) : Represents ofJson? f f.toJson fields f.absent := by
  refine Represents.of_members (ofJson?_toJson f) ?_ rfl ?_
  · simp [Writable, MembersWritable, codec_int64.writable, codec_int32.writable_ofOption]
  · simp [namesWhere, absent, codec_int64.not_null, codec_int32.isNull_ofOption]

end Favorite

namespace Placement

theorem ofJson?_toJson (p : Placement) : ofJson? p.toJson = some p := by
  have hnames : fields.Nodup := by decide
  simp only [ofJson?, toJson]
  rw [row?_object fields (by exact hnames)]
  simp [slotOf_cons, Slot.required, codec_int64.read_back, codec_int32.read_back]

theorem represents (p : Placement) : Represents ofJson? p p.toJson fields [] := by
  refine Represents.of_members (ofJson?_toJson p) ?_ rfl rfl
  simp [Writable, MembersWritable, codec_int64.writable, codec_int32.writable]

end Placement

namespace AccessRecord

/-- What is not known of an access. -/
def absent (r : AccessRecord) : List String :=
  namesWhere [("accessDuration", r.duration.isNone), ("conversationRounds", r.rounds.isNone),
    ("sessionId", r.conversation.isNone)]

/-- The fields written, which are those whose value is known. -/
def known (r : AccessRecord) : List String := fields.filter fun f => f ∉ r.absent

theorem names_toJson (r : AccessRecord) :
    ∃ members, r.toJson = .object members ∧ members.map Prod.fst = r.known := by
  obtain ⟨id, duration, rounds, conversation⟩ := r
  refine ⟨_, rfl, ?_⟩
  cases duration <;> cases rounds <;> cases conversation <;> rfl

theorem ofJson?_toJson (r : AccessRecord) : ofJson? r.toJson = some r := by
  have hnames : r.known.Nodup := List.Nodup.filter _ (by decide : fields.Nodup)
  obtain ⟨members, hm, hk⟩ := r.names_toJson
  rw [← hk] at hnames
  simp only [ofJson?, hm]
  rw [row?_object fields hnames]
  cases hm
  obtain ⟨id, duration, rounds, conversation⟩ := r
  cases duration <;> cases rounds <;> cases conversation <;>
    simp [slotOf_cons, slotOf_nil, Slot.required, Slot.orAbsent, codec_int64.read_back,
      nullable_of_not_null, codec_uint32.not_null, codec_uint32.read_back, codec_text.not_null,
      codec_text.read_back]

theorem represents (r : AccessRecord) : Represents ofJson? r r.toJson r.known [] := by
  obtain ⟨members, hm, hk⟩ := r.names_toJson
  have hback := ofJson?_toJson r
  rw [hm] at hback ⊢
  refine Represents.of_members hback ?_ hk ?_
  all_goals
    cases hm
    obtain ⟨id, duration, rounds, conversation⟩ := r
    cases duration <;> cases rounds <;> cases conversation <;>
      simp [Writable, MembersWritable, namesWhere, codec_int64.writable, codec_int64.not_null,
        codec_uint32.writable, codec_uint32.not_null, codec_text.not_null]

end AccessRecord

/-- Every record is read back from the text written of it, whatever value it was read from. The
members have the backend's names; absent options are null, and those of an access record are left
out. The double in a companion is taken to be read back from its own text. -/
theorem records_read_back :
    (∀ c : Companion, c.ScoreKept →
      Represents Companion.ofJson? c c.toJson Companion.fields c.absent) ∧
    (∀ p : Page, (∀ c ∈ p.companions, c.ScoreKept) →
      Represents Page.ofJson? p p.toJson Page.fields [] ∧
      ∃ counters, p.toJson =
        .object (("characters", .array (p.companions.map Companion.toJson)) :: counters)) ∧
    (∀ f : Favorite, Represents Favorite.ofJson? f f.toJson Favorite.fields f.absent) ∧
    (∀ p : Placement, Represents Placement.ofJson? p p.toJson Placement.fields []) ∧
    ∀ r : AccessRecord, Represents AccessRecord.ofJson? r r.toJson r.known [] :=
  ⟨fun _ h => Companion.represents h, fun _ h => ⟨Page.represents h, _, rfl⟩,
    Favorite.represents, Placement.represents, AccessRecord.represents⟩

/-- A companion whose name needs an escape, with options of each kind. -/
def Companion.quoted : Companion where
  id := -7
  name := "\"Ann\"\n\x01"
  sceneId := some 9223372036854775807
  tags := ["a", ""]
  accessCount := 18446744073709551615
  lastAccess := some ⟨-1, by decide, by decide⟩
  unread := some 4294967295
  score := 0.75

theorem Companion.quoted_scoreKept : Companion.quoted.ScoreKept := by
  have htext : render (.real 0.75) = "0.75" := by decide +kernel
  have hback : Json.parse? "0.75" =
      some (.real ((UInt64.ofNat 75).toFloat / Json.powerOfTen 2)) := by rfl
  have hexact : (UInt64.ofNat 75).toFloat / Json.powerOfTen 2 = 0.75 := by rfl
  change Json.parse? (render (.real 0.75)) = some (.real 0.75)
  rw [htext, hback, hexact]

theorem records_read_back_quoted :
    Companion.quoted.ScoreKept ∧ (∀ c ∈ [Companion.quoted], c.ScoreKept) ∧
    Represents Companion.ofJson? Companion.quoted Companion.quoted.toJson Companion.fields
      ["avatarUrl", "sceneName", "isOnline"] ∧
    Represents Page.ofJson? ⟨[Companion.quoted], 1, 0, 0⟩
      (Page.toJson ⟨[Companion.quoted], 1, 0, 0⟩) Page.fields [] := by
  have hs := Companion.quoted_scoreKept
  have hall : ∀ c ∈ [Companion.quoted], c.ScoreKept := by simpa using hs
  exact ⟨hs, hall, records_read_back.1 _ hs, (records_read_back.2.1 _ hall).1⟩

end Companions
