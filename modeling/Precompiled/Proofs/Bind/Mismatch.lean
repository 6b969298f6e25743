import Precompiled.Proofs.Bind.Outcome
import Precompiled.Proofs.Descriptor.Layout

/-!
# What a mismatch shows

A field that a bind refuses is reported with the layout that the module has declared and the one
that the backend has, or with the remark that it has none. The two texts differ in every report, and
each of them tells the layout on its side. So does the message that both stand in: no layout holds
the letter `s`, in which the words before each of them end.
-/

namespace Precompiled

open Text (append_mark_inj_right)

-- ---------------------------------------------------------------------------
-- The texts
-- ---------------------------------------------------------------------------

namespace BindError

variable {f f' : Field} {declared declared' : Option Field}

theorem layout_ne_undeclared (f : Field) : f.layout ≠ "no declaration" := by
  intro h
  have hn : 'n' ∈ f.layout.toList := by
    rw [h]
    decide
  exact (Field.mem_layout hn).elim (by decide) (by decide)

theorem foundLayout_inj :
    foundLayout declared = foundLayout declared' ↔
      declared.map Field.form = declared'.map Field.form := by
  cases declared with
  | none =>
    cases declared' with
    | none => exact iff_of_true rfl rfl
    | some g' => exact iff_of_false (layout_ne_undeclared g').symm nofun
  | some g =>
    cases declared' with
    | none => exact iff_of_false (layout_ne_undeclared g) nofun
    | some g' =>
      rw [Option.map_some, Option.map_some, Option.some_inj]
      exact Field.layout_inj

theorem s_not_mem_layout (f : Field) : 's' ∉ f.layout.toList :=
  fun h => (Field.mem_layout h).elim (by decide) (by decide)

theorem s_not_mem_foundLayout (declared : Option Field) : 's' ∉ (foundLayout declared).toList := by
  cases declared with
  | none => decide
  | some g => exact s_not_mem_layout g

theorem toList_message :
    (message (.fieldMismatch f declared)).toList =
      ("field `".toList ++ (f.name.toList ++ "`: module declare".toList) ++
        's' :: ' ' :: (f.layout.toList ++ ", backend ha".toList)) ++
          's' :: ' ' :: (foundLayout declared).toList := by
  have htext : message (.fieldMismatch f declared) =
      "field `" ++ f.name ++ "`: module declares " ++ f.layout ++ ", " ++
        ("backend has " ++ foundLayout declared) := rfl
  rw [htext]
  simp

theorem message_inj :
    message (.fieldMismatch f declared) = message (.fieldMismatch f' declared') ↔
      f.name = f'.name ∧ f.form = f'.form ∧
        declared.map Field.form = declared'.map Field.form := by
  have hfound (d : Option Field) : 's' ∉ ' ' :: (foundLayout d).toList := by
    rw [List.mem_cons, not_or]
    exact ⟨by decide, s_not_mem_foundLayout d⟩
  have hshown (g : Field) : 's' ∉ ' ' :: (g.layout.toList ++ ", backend ha".toList) := by
    rw [List.mem_cons, List.mem_append, not_or, not_or]
    exact ⟨by decide, s_not_mem_layout g, by decide⟩
  -- The last `s` ends the words before what the backend has, and the one before it ends the words
  -- before what the module has.
  rw [← String.toList_inj, toList_message, toList_message,
    append_mark_inj_right (hfound declared) (hfound declared'),
    append_mark_inj_right (hshown f) (hshown f'), List.append_cancel_left_eq,
    List.append_cancel_right_eq, List.cons_inj_right, List.append_cancel_right_eq,
    List.cons_inj_right, String.toList_inj, String.toList_inj, String.toList_inj,
    Field.layout_inj, foundLayout_inj, and_assoc]

end BindError

-- ---------------------------------------------------------------------------
-- The bind
-- ---------------------------------------------------------------------------

namespace Backend

variable {b : Backend} {requireDeclared : Bool} {m : Metadata} {f : Field}
  {declared : Option Field}

/-- A backend admits a field exactly if both sides show the same text, or if it has declared none
and none is required. -/
theorem admits_iff_layout :
    b.Admits requireDeclared f ↔
      f.layout = BindError.foundLayout (b.declared f.name) ∨
        b.declared f.name = none ∧ requireDeclared = false := by
  cases h : b.declared f.name with
  | none =>
    have hne : f.layout ≠ BindError.foundLayout none := BindError.layout_ne_undeclared f
    simp [admits_of_undeclared h, hne]
  | some g =>
    have hfound : BindError.foundLayout (some g) = g.layout := rfl
    simp [admits_of_declared h, hfound, Field.layout_inj, Field.form_inj, eq_comm]

theorem Refuses.of_fieldMismatch (h : b.Refuses requireDeclared m (.fieldMismatch f declared)) :
    f ∈ m.fields ∧ declared = b.declared f.name ∧ ¬ b.Admits requireDeclared f := by
  cases h with
  | field _ _ hf => exact ⟨List.mem_of_find?_eq_some hf, rfl, by simpa using List.find?_some hf⟩

end Backend

namespace Registry

/-- Two fields show the same layout exactly if they have the same element type and shape, and no
layout is the text for a missing declaration. So whatever metadata, backend and options a bind has,
a mismatch that it reports shows different texts for the field of the module and for what the
backend has declared under its name. Each text tells the element type and the shape on its side, and
the message with both tells all of it. -/
theorem mismatch_layouts (r : Registry Backend) (id : BackendId) (o : LoadOptions) (m : Metadata) :
    (∀ a b : Field, a.layout = b.layout ↔ a.sameLayout b) ∧
    (∀ a : Field, a.layout ≠ "no declaration") ∧
    ∀ f declared, (r.bind id o m).outcome = .error (.fieldMismatch f declared) →
      (∃ b, r.get? id = some b ∧ f ∈ m.fields ∧ declared = b.declared f.name) ∧
      f.layout ≠ BindError.foundLayout declared ∧
      ∀ f' declared',
        (f.layout = f'.layout ↔ f.type = f'.type ∧ f.shape = f'.shape) ∧
        (BindError.foundLayout declared = BindError.foundLayout declared' ↔
          declared.map Field.form = declared'.map Field.form) ∧
        (BindError.message (.fieldMismatch f declared) =
            BindError.message (.fieldMismatch f' declared') ↔
          f.name = f'.name ∧ f.form = f'.form ∧
            declared.map Field.form = declared'.map Field.form) := by
  refine ⟨fun a b => ?_, BindError.layout_ne_undeclared, fun f declared h => ?_⟩
  · rw [Field.layout_inj, Field.sameLayout_iff]
  cases bind_error_iff.mp h with
  | backend hb he =>
    obtain ⟨hf, rfl, hrefused⟩ := he.of_fieldMismatch
    refine ⟨⟨_, hb, hf, rfl⟩, fun hsame => ?_, fun f' declared' => ⟨?_, ?_, ?_⟩⟩
    · exact hrefused (Backend.admits_iff_layout.mpr (.inl hsame))
    · rw [Field.layout_inj, Field.form_inj]
    · exact BindError.foundLayout_inj
    · exact BindError.message_inj

/-- A dimension more than the declaration has, and no declaration where one is required. A name that
holds the words of a message does not pass for another field. -/
theorem mismatch_layouts_of_adder :
    let id : BackendId := ⟨0, 0⟩
    let x : Field := { name := "x", type := .f32, shape := [4, 18446744073709551615] }
    let declared : Field := { name := "x", type := .f32, shape := [4] }
    let y : Field := { name := "y", type := .i32 }
    let m : Metadata := { version := 1, fields := [y, x] }
    let sly : Field := { x with name := "x`: module declares f32[4], backend has f32[4" }
    ((ofAdder.bind id {} m).outcome = .error (.fieldMismatch x (some declared)) ∧
      x.layout ≠ BindError.foundLayout (some declared) ∧
      BindError.message (.fieldMismatch x (some declared)) ≠
        BindError.message (.fieldMismatch sly (some declared))) ∧
    (ofAdder.bind id { requireDeclared := true } m).outcome = .error (.fieldMismatch y none) ∧
      y.layout ≠ BindError.foundLayout none := by
  intro id x declared y m sly
  have htarget : adder.RunsTarget m := nofun
  have hx : (ofAdder.bind id {} m).outcome = .error (.fieldMismatch x (some declared)) :=
    bind_error_iff.mpr (.backend rfl (.field (f := x) htarget (by decide) (by decide)))
  have hy : (ofAdder.bind id { requireDeclared := true } m).outcome =
      .error (.fieldMismatch y none) :=
    bind_error_iff.mpr (.backend rfl (.field (f := y) htarget (by decide) (by decide)))
  obtain ⟨-, hdiffer, htells⟩ := (mismatch_layouts ofAdder id {} m).2.2 x (some declared) hx
  obtain ⟨-, hdiffer', -⟩ := (mismatch_layouts ofAdder id _ m).2.2 y none hy
  exact ⟨⟨hx, hdiffer, mt (htells sly (some declared)).2.2.mp (by decide)⟩, hy, hdiffer'⟩

end Registry
end Precompiled
