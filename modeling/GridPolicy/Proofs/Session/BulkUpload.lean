import GridPolicy.Proofs.Session.Records
import Mathlib.Algebra.Order.BigOperators.Group.List
import Mathlib.Algebra.Order.Ring.Int

/-!
# Bulk uploads

A bulk upload gives for each of its objects where it ends, and the sizes are the differences
of these offsets. Where the offsets begin at zero or later and do not decrease, no difference
leaves the range of the offsets, so to go from offsets to sizes loses nothing, and only where
they decrease is an upload refused. Each object is then reported as a creation of its own.
-/
namespace GridPolicy

/-- The integers are those of 64 bits. -/
def FitInt64 (numbers : List Int) : Prop := ∀ n ∈ numbers, Text.fitsInt64 n = true

/-- Where objects of these sizes end that follow one another from `start` on. -/
def endsFrom (start : Int) : List Int → List Int
  | [] => []
  | size :: r => (start + size) :: endsFrom (start + size) r

namespace Text

variable {a b : Int}

theorem fitsInt64_iff {n : Int} :
    fitsInt64 n = true ↔ -9223372036854775808 ≤ n ∧ n ≤ 9223372036854775807 := by
  simp [fitsInt64]

/-- From an offset to a later one the difference is in the range of both. -/
theorem subInt64?_of_le (ha : fitsInt64 a = true) (hb : 0 ≤ b) (hle : b ≤ a) :
    subInt64? a b = some (a - b) := by
  rw [fitsInt64_iff] at ha
  have hfits : fitsInt64 (a - b) = true := by
    rw [fitsInt64_iff]
    omega
  rw [subInt64?, if_pos hfits]

theorem filter_subInt64?_of_lt (hlt : a < b) :
    (subInt64? a b).filter (fun size => 0 ≤ size) = none := by
  unfold subInt64?
  split
  · simpa [Option.filter] using hlt
  · rfl

end Text

section Sizes

variable {previous offset : Int} {offsets sizes rest : List Int}

theorem sizesFrom_cons_of_le (hprevious : 0 ≤ previous) (hfits : Text.fitsInt64 offset = true)
    (hle : previous ≤ offset) :
    sizesFrom previous (offset :: rest) =
      (sizesFrom offset rest).map ((offset - previous) :: ·) := by
  rw [sizesFrom, Text.subInt64?_of_le hfits hprevious hle]
  simp [Option.filter, hle]

theorem sizesFrom_cons_of_lt (hlt : offset < previous) :
    sizesFrom previous (offset :: rest) = none := by
  rw [sizesFrom, Text.filter_subInt64?_of_lt hlt]

theorem isChain_of_isSome (h : (sizesFrom previous offsets).isSome) :
    (previous :: offsets).IsChain (· ≤ ·) := by
  induction offsets generalizing previous with
  | nil => exact .singleton previous
  | cons offset rest ih =>
    rw [List.isChain_cons_cons]
    by_cases hlt : offset < previous
    · rw [sizesFrom_cons_of_lt hlt] at h
      cases h
    · refine ⟨Int.not_lt.mp hlt, ih ?_⟩
      unfold sizesFrom at h
      split at h
      · cases h
      · rwa [Option.isSome_map] at h

/-- There are sizes where no offset is below the one before it. -/
theorem isSome_sizesFrom_iff (hprevious : 0 ≤ previous) (hfits : FitInt64 offsets) :
    (sizesFrom previous offsets).isSome ↔ (previous :: offsets).IsChain (· ≤ ·) := by
  refine ⟨isChain_of_isSome, ?_⟩
  induction offsets generalizing previous with
  | nil => exact fun _ => rfl
  | cons offset rest ih =>
    obtain ⟨hoffset, hrest⟩ := List.forall_mem_cons.mp hfits
    rw [List.isChain_cons_cons]
    rintro ⟨hle, hchain⟩
    rw [sizesFrom_cons_of_le hprevious hoffset hle, Option.isSome_map]
    exact ih (Int.le_trans hprevious hle) hrest hchain

/-- The sizes of the offsets are those that the objects have which end there. -/
theorem sizesFrom_eq_some_iff (hprevious : 0 ≤ previous) (hfits : FitInt64 offsets) :
    sizesFrom previous offsets = some sizes ↔
      (∀ size ∈ sizes, 0 ≤ size) ∧ endsFrom previous sizes = offsets := by
  induction offsets generalizing previous sizes with
  | nil => cases sizes <;> simp [sizesFrom, endsFrom]
  | cons offset rest ih =>
    obtain ⟨hoffset, hrest⟩ := List.forall_mem_cons.mp hfits
    by_cases hle : previous ≤ offset
    · rw [sizesFrom_cons_of_le hprevious hoffset hle, Option.map_eq_some_iff]
      constructor
      · rintro ⟨later, hlater, rfl⟩
        obtain ⟨hnonneg, hends⟩ := (ih (Int.le_trans hprevious hle) hrest).mp hlater
        have hend : previous + (offset - previous) = offset := by omega
        refine ⟨List.forall_mem_cons.mpr ⟨by omega, hnonneg⟩, ?_⟩
        rw [endsFrom, hend, hends]
      · rintro ⟨hnonneg, hends⟩
        cases sizes with
        | nil => cases hends
        | cons size later =>
          rw [endsFrom, List.cons.injEq] at hends
          obtain ⟨hend, hends⟩ := hends
          have hsize : offset - previous = size := by omega
          rw [hend] at hends
          refine ⟨later, (ih (Int.le_trans hprevious hle) hrest).mpr ⟨?_, hends⟩, by rw [hsize]⟩
          exact (List.forall_mem_cons.mp hnonneg).2
    · rw [sizesFrom_cons_of_lt (Int.not_le.mp hle)]
      refine iff_of_false nofun ?_
      rintro ⟨hnonneg, hends⟩
      cases sizes with
      | nil => cases hends
      | cons size later =>
        rw [endsFrom, List.cons.injEq] at hends
        have hsize := (List.forall_mem_cons.mp hnonneg).1
        omega

/-- The offsets of objects lie between where the first begins and where the last ends. -/
theorem endsFrom_bounds {start offset : Int} (hnonneg : ∀ size ∈ sizes, 0 ≤ size)
    (h : offset ∈ endsFrom start sizes) : start ≤ offset ∧ offset ≤ start + sizes.sum := by
  induction sizes generalizing start with
  | nil => cases h
  | cons size rest ih =>
    obtain ⟨hsize, hrest⟩ := List.forall_mem_cons.mp hnonneg
    have hsum : 0 ≤ rest.sum := List.sum_nonneg hrest
    rw [List.sum_cons]
    rcases List.mem_cons.mp h with rfl | h
    · omega
    · have hbounds := ih hrest h
      omega

theorem fitInt64_endsFrom (hnonneg : ∀ size ∈ sizes, 0 ≤ size)
    (hsum : Text.fitsInt64 sizes.sum = true) : FitInt64 (endsFrom 0 sizes) := by
  intro offset hoffset
  have hbounds := endsFrom_bounds hnonneg hoffset
  rw [Text.fitsInt64_iff] at hsum ⊢
  omega

theorem length_endsFrom (start : Int) (sizes : List Int) :
    (endsFrom start sizes).length = sizes.length := by
  induction sizes generalizing start with
  | nil => rfl
  | cons size rest ih => rw [endsFrom, List.length_cons, ih, List.length_cons]

end Sizes

/-- The event is the creation of the object at this path with this size. -/
structure Creates (part : String × Int) (item : ClassifiedEvent) : Prop where
  event : item.event = .create
  object : item.record.get? "obj_path" = some (.text part.1)
  path : item.record.get? Key.logicalPath = some (.text part.1)
  /-- The size as decimal text. -/
  size : item.record.get? "data_size" = some (.text (toString part.2))

namespace Classifier

variable {s : Session} {point : InterceptionPoint} {paths : List String} {offsets sizes : List Int}

/-- A creation as the handler of a bulk upload reports it. -/
def created (keywords : KeywordInput) (part : String × Int) : ClassifiedEvent :=
  ⟨.create, objectRecord { path := part.1, dataSize := part.2, keywords }⟩

theorem creates_created (keywords : KeywordInput) (part : String × Int) :
    Creates part (created keywords part) := by
  refine ⟨rfl, ?_, ?_, ?_⟩ <;>
    simp [created, objectRecord, EventRecord.get?, DataObjectInput.toFields, Fields.ofList,
      Fields.overlay, Fields.get?_insert, Key.logicalPath, Key.condInput, numberText]

theorem creates_decorate (client : ClientInfo) (name : String) {part : String × Int}
    {item : ClassifiedEvent} (h : Creates part item) :
    Creates part (decorate client name item) where
  event := h.event
  object := ((completes_decorate client name item).kept _ (by decide) (by decide)).trans h.object
  path := ((completes_decorate client name item).kept _ (by decide) (by decide)).trans h.path
  size := ((completes_decorate client name item).kept _ (by decide) (by decide)).trans h.size

theorem handle_of_bulkPut (hbase : point.base = "bulk_data_obj_put")
    (arguments : CallArguments) : handle s point arguments = (s, bulkPut point arguments) := by
  simp [handle, hbase]

theorem bulkPut_of_sizes (keywords : KeywordInput) (hlength : paths.length = offsets.length)
    (hsizes : bulkSizes? offsets = some sizes) :
    bulkPut point (.bulkPut paths offsets keywords) =
      .ok ((paths.zip sizes).map (created keywords)) := by
  rw [List.map_zip_eq_zipWith]
  simp [bulkPut, hlength, hsizes]
  rfl

theorem classify_of_bulkPut {name : String} (hpoint : InterceptionPoint.parse? name = some point)
    (hbase : point.base = "bulk_data_obj_put") (arguments : CallArguments) :
    classify s name arguments =
      (s, (bulkPut point arguments).map fun raw => raw.map (decorate s.client name)) := by
  simp only [classify, hpoint, handle_of_bulkPut hbase]

end Classifier

/-- The arguments are those of a bulk upload with an offset for each path, none of which is
below the one before it. -/
inductive BulkUpload : CallArguments → Prop
  | mk {paths : List String} {offsets : List Int} (keywords : KeywordInput)
      (hlength : paths.length = offsets.length) (hascending : (0 :: offsets).IsChain (· ≤ ·)) :
      BulkUpload (.bulkPut paths offsets keywords)

theorem Classifier.bulkPut_refused {arguments : CallArguments} (h : ¬ BulkUpload arguments)
    (point : InterceptionPoint) : ∃ e, bulkPut point arguments = .error e := by
  cases arguments with
  | bulkPut paths offsets keywords =>
    unfold bulkPut
    dsimp only
    split
    · exact ⟨_, rfl⟩
    · next hlength =>
      split
      · exact ⟨_, rfl⟩
      · next sizes hsizes =>
        have hascending := isChain_of_isSome (Option.isSome_of_eq_some hsizes)
        exact absurd (.mk keywords (Classical.not_not.mp hlength) hascending) h
  | _ => exact ⟨_, rfl⟩

/-- Offsets and sizes of bulk uploads, and what is reported of one in this session. -/
structure UploadsInBulk (s : Session) : Prop where
  accepted : ∀ offsets, FitInt64 offsets →
    ((bulkSizes? offsets).isSome ↔ (0 :: offsets).IsChain (· ≤ ·))
  ends : ∀ offsets sizes, FitInt64 offsets → bulkSizes? offsets = some sizes →
    (∀ size ∈ sizes, 0 ≤ size) ∧ endsFrom 0 sizes = offsets
  sizes : ∀ sizes, (∀ size ∈ sizes, 0 ≤ size) → Text.fitsInt64 sizes.sum = true →
    bulkSizes? (endsFrom 0 sizes) = some sizes
  /-- Each object is reported by itself, in order. -/
  reports : ∀ name point paths offsets keywords, InterceptionPoint.parse? name = some point →
    point.base = "bulk_data_obj_put" → FitInt64 offsets →
    BulkUpload (.bulkPut paths offsets keywords) →
    ∃ sizes items, bulkSizes? offsets = some sizes ∧ sizes.length = paths.length ∧
      (classify s name (.bulkPut paths offsets keywords)).2 = .ok items ∧
      List.Forall₂ Creates (paths.zip sizes) items
  refused : ∀ name point arguments, InterceptionPoint.parse? name = some point →
    point.base = "bulk_data_obj_put" → ¬ BulkUpload arguments →
    ∃ e, (classify s name arguments).2 = .error e
  session : ∀ name point arguments, InterceptionPoint.parse? name = some point →
    point.base = "bulk_data_obj_put" → (classify s name arguments).1 = s

/-- The sizes of a bulk upload are those with which its objects end at its offsets, and it is
reported object by object or not at all. -/
theorem uploads_in_bulk (s : Session) : UploadsInBulk s where
  accepted _ hfits := isSome_sizesFrom_iff (Int.le_refl 0) hfits
  ends _ _ hfits hsizes := (sizesFrom_eq_some_iff (Int.le_refl 0) hfits).mp hsizes
  sizes _ hnonneg hsum :=
    (sizesFrom_eq_some_iff (Int.le_refl 0) (fitInt64_endsFrom hnonneg hsum)).mpr ⟨hnonneg, rfl⟩
  reports := by
    rintro name point paths offsets keywords hpoint hbase hfits ⟨_, hlength, hascending⟩
    have hsome := (isSome_sizesFrom_iff (Int.le_refl 0) hfits).mpr hascending
    obtain ⟨sizes, hsizes⟩ := Option.isSome_iff_exists.mp hsome
    have hends := ((sizesFrom_eq_some_iff (Int.le_refl 0) hfits).mp hsizes).2
    have hmany : sizes.length = paths.length := by
      rw [hlength, ← hends, length_endsFrom]
    let raw := (paths.zip sizes).map (Classifier.created keywords)
    refine ⟨sizes, raw.map (Classifier.decorate s.client name), hsizes, hmany, ?_, ?_⟩
    · rw [Classifier.classify_of_bulkPut hpoint hbase,
        Classifier.bulkPut_of_sizes keywords hlength hsizes]
      rfl
    · rw [List.forall₂_map_right_iff, List.forall₂_map_right_iff, List.forall₂_same]
      intro part _
      exact Classifier.creates_decorate s.client name (Classifier.creates_created keywords part)
  refused := by
    intro name point arguments hpoint hbase hnot
    obtain ⟨e, he⟩ := Classifier.bulkPut_refused hnot point
    exact ⟨e, by rw [Classifier.classify_of_bulkPut hpoint hbase, he]; rfl⟩
  session _ _ arguments hpoint hbase :=
    congrArg Prod.fst (Classifier.classify_of_bulkPut hpoint hbase arguments)

/-- Two objects of one upload. The second is as long as its offset is beyond that of the first. -/
example : (classify (.start {}) "bulk_data_obj_put_post"
    (.bulkPut ["/zone/home/f", "/zone/home/g"] [5, 12] [])).2.toOption.map
      (·.map fun item => (item.event, item.record.field "data_size")) =
    some [(.create, "5"), (.create, "7")] := by decide +kernel

end GridPolicy
