import ServiceCatalog.Source.Printer

/-!
# How files begin

A layout is written out from its first to its last part, and what was written stays
(`Layout.suffix_put`).  So a file begins with the notice and the first line of its documentation
(`File.text_of_docs`).
-/

namespace ServiceCatalog.Source

set_option autoImplicit false

namespace Layout

theorem suffix_turn (place : Gap) (page : Page) : page.written <:+ (page.turn place).written := by
  rw [Page.turn]
  split
  · exact ⟨["\n", ",", _], rfl⟩
  · exact List.suffix_cons _ _

mutual

/-- What was written stays when a layout is written. -/
theorem suffix_put (mode : Mode) (behind : Nat) (page : Page) (layout : Layout) :
    page.written <:+ (put mode behind page layout).written := by
  cases layout with
  | text characters => exact ⟨[characters, _], rfl⟩
  | gap place =>
      simp only [put]
      exact iteInduction (motive := fun next : Page => page.written <:+ next.written)
        (fun _ => List.suffix_rfl) fun _ => suffix_turn place page
  | box uniform indent limit content =>
      simp only [put]
      exact iteInduction (motive := fun next : Page => page.written <:+ next.written)
        (fun _ => suffix_putAll .onOneLine behind page content) fun _ =>
          suffix_putAll _ behind { page with indent := page.indent + indent } content

theorem suffix_putAll (mode : Mode) (behind : Nat) (page : Page) (layouts : List Layout) :
    page.written <:+ (putAll mode behind page layouts).written := by
  cases layouts with
  | nil => exact List.suffix_rfl
  | cons layout rest =>
      exact (suffix_put mode (reach behind rest) page layout).trans
        (suffix_putAll mode behind _ rest)

end

/-- The first two texts of a box stand at its start. -/
theorem exists_render_box {uniform : Bool} {indent : Int} {limit : Option Nat}
    {first second : String} {rest : List Layout} :
    ∃ later, (Layout.box uniform indent limit (.text first :: .text second :: rest)).render =
      first ++ second ++ later := by
  have start : ∀ mode (page : Page), page.written = [] → page.owed = 0 →
      ∃ later, (putAll mode 0 page (.text first :: .text second :: rest)).written =
        later ++ [second, "", first, ""] := by
    intro mode page blank unowed
    obtain ⟨later, written⟩ := suffix_putAll mode 0
      (put mode (reach 0 rest) (put mode (reach 0 (.text second :: rest)) page (.text first))
        (.text second)) rest
    refine ⟨later, written.symm.trans ?_⟩
    simp [put, Page.put, blank, unowed]
  obtain ⟨later, written⟩ : ∃ later, (put .uniform 0 ⟨[], margin, 0, 0⟩
      (.box uniform indent limit (.text first :: .text second :: rest))).written =
        later ++ [second, "", first, ""] := by
    simp only [put]
    exact iteInduction (motive := fun next : Page => ∃ later, next.written = later ++ _)
      (fun _ => start .onOneLine _ rfl rfl) fun _ => start _ _ rfl rfl
  refine ⟨String.join later.reverse, ?_⟩
  rw [render, written]
  simp [String.join_cons, String.append_assoc]

end Layout

/-- **A file begins with the notice and the first line of its documentation.** -/
theorem File.text_of_docs {file : File} {doc : String} {others : List String}
    (docs : file.docs = doc :: others) (flat : doc.toList.contains '\n' = false) :
    ∃ later, file.text = notice ++ "\n\n" ++ ("//!" ++ withoutBlanks doc ++ later) := by
  have line : docLayout true doc = [.text "//!", .text (withoutBlanks doc), .lineEnd 0] := by
    rw [docLayout, flat]
    rfl
  obtain ⟨later, render⟩ : ∃ later, file.layout.render = "//!" ++ withoutBlanks doc ++ later := by
    rw [File.layout, docs, List.flatMap_cons, line]
    exact Layout.exists_render_box
  exact ⟨later, congrArg (notice ++ "\n\n" ++ ·) render⟩

end ServiceCatalog.Source
