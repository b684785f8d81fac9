import Mathlib.Data.List.Nodup
import SessionReplay.Proofs.Settings.Numerals
import SessionReplay.Simulation.Screen

/-!
# The ids of started views

The id of a view is a name, a dash and a number. The name can be anything, so it may hold dashes and
digits itself and look just like an id. What carries the rest is that the digits of a number hold no dash:
the number stands behind the last dash of the id, and the name before it (`Text.append_mark_inj`).

* `viewId_inj`: an id gives away its name and its number.
* `view_contexts_eq_iff`: two views that an application starts have the same id exactly if they have the
  same name and the numbers of views started before them agree modulo `2 ^ 64`.
* `nodup_view_contexts`: so the ids of the first `2 ^ 64` views are all different, and a view that is
  started is new (`exists_contexts_append_new`).
* `isId_viewId`: an id always names something, since a number that is printed is not twelve zeros.
-/

namespace SessionReplay

/-- A text gives away what stands before its last mark and what stands behind it: a longer name would reach
into what stands behind the mark of the other text. -/
theorem Text.append_mark_inj {mark : Char} {name name' rest rest' : List Char} (hrest : mark ∉ rest)
    (hrest' : mark ∉ rest') :
    name ++ mark :: rest = name' ++ mark :: rest' ↔ name = name' ∧ rest = rest' := by
  have hshort : ∀ {more rest rest' : List Char}, mark ∉ rest →
      mark :: rest = more ++ mark :: rest' → more = [] ∧ rest = rest' := by
    intro more rest rest' hrest heq
    cases more with
    | nil => exact ⟨rfl, (List.cons.inj heq).2⟩
    | cons c more =>
      obtain ⟨-, rfl⟩ := List.cons.inj heq
      exact absurd (List.mem_append_right more List.mem_cons_self) hrest
  constructor
  · intro heq
    rcases List.append_eq_append_iff.mp heq with ⟨more, rfl, hmore⟩ | ⟨more, rfl, hmore⟩
    · obtain ⟨rfl, rfl⟩ := hshort hrest hmore
      simp
    · obtain ⟨rfl, rfl⟩ := hshort hrest' hmore
      simp
  · rintro ⟨rfl, rfl⟩
    rfl

namespace Simulation

/-! ## One id -/

/-- An id is the name, a mark and the number. -/
theorem toList_viewId (name : String) (count : UInt64) :
    (viewId name count).toList = name.toList ++ '-' :: (toString count.toNat).toList := by
  change (name ++ "-" ++ toString count.toNat).toList = _
  simp

/-- There is no dash in a number. -/
theorem dash_notMem_toString (n : Nat) : '-' ∉ (toString n).toList := by
  intro hdash
  exact absurd ((Numeral.digits_toString n).1.isDigit '-' hdash) (by decide)

/-- A printed number gives itself away. -/
theorem toString_inj {m n : Nat} (h : (toString m).toList = (toString n).toList) : m = n := by
  rw [← (Numeral.digits_toString m).2, h, (Numeral.digits_toString n).2]

/-- **An id gives away its name and its number**, whatever the name looks like. -/
theorem viewId_inj {name name' : String} {count count' : UInt64} :
    viewId name count = viewId name' count' ↔ name = name' ∧ count = count' := by
  constructor
  · intro heq
    have hlists := congrArg String.toList heq
    rw [toList_viewId, toList_viewId] at hlists
    obtain ⟨hname, hcount⟩ :=
      (Text.append_mark_inj (dash_notMem_toString _) (dash_notMem_toString _)).mp hlists
    exact ⟨String.toList_inj.mp hname, UInt64.toNat_inj.mp (toString_inj hcount)⟩
  · rintro ⟨rfl, rfl⟩
    rfl

/-- No view has the id that stands for "none": behind the last dash of that one are twelve zeros. -/
theorem viewId_ne_nullId (name : String) (count : UInt64) : viewId name count ≠ nullId := by
  intro heq
  have hlists := congrArg String.toList heq
  have hnull : nullId.toList = "00000000-0000-0000-0000".toList ++ '-' :: "000000000000".toList := rfl
  rw [toList_viewId, hnull] at hlists
  obtain ⟨-, hcount⟩ :=
    (Text.append_mark_inj (dash_notMem_toString _) (by decide)).mp hlists
  have hzero : count.toNat = 0 := by
    rw [← (Numeral.digits_toString count.toNat).2, hcount]
    rfl
  rw [hzero] at hcount
  exact absurd hcount (by decide)

/-- The id of a view always names something. -/
theorem isId_viewId (name : String) (count : UInt64) : isId (viewId name count) = true := by
  have hne : viewId name count ≠ "" := by
    intro heq
    have hlists := congrArg String.toList heq
    rw [toList_viewId] at hlists
    simp at hlists
  simp [isId, hne, viewId_ne_nullId]

/-! ## The views of an application -/

/-- The contexts of views that an application starts one after the other. -/
def contexts (application : String) (names : List String) : List ViewContext :=
  names.mapIdx fun i name => ⟨application, sessionId, viewId name (UInt64.ofNat i)⟩

variable {application : String} {names : List String}

/-- The context of the view started at some place has the number of that place. -/
theorem getElem?_contexts (i : Nat) : (contexts application names)[i]?
    = names[i]?.map fun name => ⟨application, sessionId, viewId name (UInt64.ofNat i)⟩ :=
  List.getElem?_mapIdx

/-- There is one context for each name. -/
@[simp] theorem length_contexts : (contexts application names).length = names.length :=
  List.length_mapIdx

/-- The view that is started last has the last number. -/
theorem contexts_concat (name : String) : contexts application (names ++ [name])
    = contexts application names
      ++ [⟨application, sessionId, viewId name (UInt64.ofNat names.length)⟩] :=
  List.mapIdx_concat

/-- Views that are started later come behind. -/
theorem exists_contexts_append (application : String) (names more : List String) :
    ∃ later, later.length = more.length ∧
      contexts application (names ++ more) = contexts application names ++ later :=
  ⟨_, List.length_mapIdx, List.mapIdx_append⟩

/-- All contexts are those of some name and some number. -/
theorem exists_of_mem_contexts {context : ViewContext} (h : context ∈ contexts application names) :
    ∃ name count, context = ⟨application, sessionId, viewId name count⟩ := by
  obtain ⟨i, hi, heq⟩ := List.mem_mapIdx.mp h
  exact ⟨names[i], UInt64.ofNat i, heq.symm⟩

/-- A view that is started is valid exactly if the application has an id. -/
theorem isValid_of_mem_contexts {context : ViewContext} (h : context ∈ contexts application names) :
    context.isValid = isId application := by
  obtain ⟨name, count, rfl⟩ := exists_of_mem_contexts h
  simp [ViewContext.isValid, isId_viewId, show isId sessionId = true by decide]

/-- No view that is started is the default one. -/
theorem default_notMem_contexts : ({} : ViewContext) ∉ contexts application names := by
  intro h
  obtain ⟨name, count, heq⟩ := exists_of_mem_contexts h
  exact viewId_ne_nullId name count (congrArg ViewContext.view heq).symm

/-- **Two views have the same id** exactly if they have the same name and the numbers of views started
before them agree modulo `2 ^ 64`. -/
theorem view_contexts_eq_iff {i j : Nat} {context context' : ViewContext}
    (hi : (contexts application names)[i]? = some context)
    (hj : (contexts application names)[j]? = some context') :
    context.view = context'.view ↔ names[i]? = names[j]? ∧ i % 2 ^ 64 = j % 2 ^ 64 := by
  rw [getElem?_contexts] at hi hj
  obtain ⟨name, hname, rfl⟩ := Option.map_eq_some_iff.mp hi
  obtain ⟨name', hname', rfl⟩ := Option.map_eq_some_iff.mp hj
  rw [hname, hname', viewId_inj, Option.some.injEq, ← UInt64.toNat_inj, UInt64.toNat_ofNat',
    UInt64.toNat_ofNat']

/-- **The ids of the first `2 ^ 64` views are all different.** -/
theorem nodup_view_contexts (application : String) (few : names.length ≤ 2 ^ 64) :
    ((contexts application names).map ViewContext.view).Nodup := by
  refine List.pairwise_map.mpr (List.pairwise_iff_getElem.mpr ?_)
  intro i j hi hj hlt heq
  obtain ⟨-, hcount⟩ :=
    (view_contexts_eq_iff (List.getElem?_eq_getElem hi) (List.getElem?_eq_getElem hj)).mp heq
  rw [length_contexts] at hj
  omega

/-- Views that are started later are new, as long as there are at most `2 ^ 64`. -/
theorem exists_contexts_append_new (application : String) {more : List String}
    (few : (names ++ more).length ≤ 2 ^ 64) :
    ∃ later, later.length = more.length ∧
      contexts application (names ++ more) = contexts application names ++ later ∧
      ∀ context ∈ later, context ∉ {} :: contexts application names := by
  obtain ⟨later, hlength, happend⟩ := exists_contexts_append application names more
  refine ⟨later, hlength, happend, fun context hcontext hearlier => ?_⟩
  have hnodup := (nodup_view_contexts application few).of_map
  have hstarted : context ∈ contexts application (names ++ more) :=
    happend ▸ List.mem_append_right _ hcontext
  rcases List.mem_cons.mp hearlier with rfl | hearlier
  · exact default_notMem_contexts hstarted
  · exact List.disjoint_of_nodup_append (happend ▸ hnodup) hearlier hcontext

end Simulation

end SessionReplay
