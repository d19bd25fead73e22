import Shopfront.Proofs.Cart.Transition

/-! Products that no operation is changing. A product is busy from the moment a change of its line is
shown until the change is settled or taken back. Main statement: the visible line of every other
product is the confirmed one, and a step keeps it so (`Resumes.mirrors`). -/

namespace Shopfront.Cart

def Busy (awaited : List (Awaited Point)) (product : Int) : Prop :=
  ∃ a ∈ awaited, ∃ shown, a.point.change? = some (product, shown)

def Mirrors (c : Cart) (awaited : List (Awaited Point)) : Prop :=
  ∀ p, ¬Busy awaited p → lineOf? p c.lines = lineOf? p c.confirmed

/-- What an operation shows is a line of its product, if it is a line. -/
def Point.Fits (point : Point) : Prop :=
  ∀ product shown, point.change? = some (product, shown) → ∀ l ∈ shown, l.product = product

theorem mirrors_of_eq {c : Cart} (h : c.lines = c.confirmed) (awaited : List (Awaited Point)) :
    Mirrors c awaited := fun _ _ => by rw [h]

variable {ctx : Context} {c : Cart} {rest : List (Awaited Point)}

theorem Mirrors.append (h : Mirrors c rest) (more : List (Awaited Point)) :
    Mirrors c (rest ++ more) := by
  intro p hp
  refine h p fun ⟨a, ha, hb⟩ => hp ⟨a, List.mem_append_left _ ha, hb⟩

/-- Mirrored lines after a step, with the call that the step stands at. -/
def MirrorStep (s : Step) (rest : List (Awaited Point)) : Prop :=
  Mirrors s.state (rest ++ (Underway.callOf? s.progress).toList)

theorem Continues.mirrors {s : Step} (h : Continues ctx c s) (hm : Mirrors c rest) :
    MirrorStep s rest := by
  induction h with
  | finish _ _ => exact hm.append _
  | fail _ _ => exact hm.append _
  | @send c product shown call hch =>
    intro p hp
    have hne : p ≠ product := by
      rintro rfl
      exact hp ⟨_, List.mem_append_right _ List.mem_cons_self, shown, rfl⟩
    show lineOf? p (withLine product shown c.lines) = lineOf? p c.confirmed
    rw [lineOf?_withLine hch.product_eq, if_neg hne]
    refine hm p fun ⟨a, ha, hb⟩ => hp ⟨a, List.mem_append_left _ ha, hb⟩
  | load _ _ _ => exact hm.append _
  | empty _ _ ih => exact ih (mirrors_of_eq rfl _)
  | after _ _ ih => exact ih hm

/-- A change that is settled makes its product's lines agree, whatever they were. -/
theorem mirrors_settleOn {product : Int} {line : Option Line}
    (hl : ∀ l ∈ line, l.product = product)
    (hm : ∀ p, p ≠ product → ¬Busy rest p → lineOf? p c.lines = lineOf? p c.confirmed) :
    Mirrors (settleOn c product line) rest := by
  intro p hp
  show lineOf? p (withLine product line c.lines) = lineOf? p (withLine product line c.confirmed)
  rw [lineOf?_withLine hl, lineOf?_withLine hl]
  split
  · rfl
  · next hne => exact hm p hne hp

theorem Settles.mirrors {product : Int} {shown : Option Line} {reply : Payload} {s : Step}
    (h : Settles ctx c product shown reply s) (hs : ∀ l ∈ shown, l.product = product)
    (hm : ∀ p, p ≠ product → ¬Busy rest p → lineOf? p c.lines = lineOf? p c.confirmed) :
    MirrorStep s rest := by
  induction h with
  | snapshot _ => exact mirrors_of_eq rfl _
  | line _ hl _ => exact (mirrors_settleOn (hl ▸ product_eq_settledLine hs) hm).append _
  | unnamed _ hl _ =>
    exact (reload_continues _).mirrors (mirrors_settleOn (hl ▸ product_eq_settledLine hs) hm)
  | after _ _ ih => exact ih

/-- A step from a reply keeps the lines mirrored; `rest` are the other operations that wait. -/
theorem Resumes.mirrors {call : Call} {point : Point} {reply : Reply} {s : Step}
    (h : Resumes ctx c point reply s) (hr : ∀ fault, reply ≠ .fault fault) (hp : point.Fits)
    (hm : Mirrors c (⟨call, point⟩ :: rest)) : MirrorStep s rest := by
  -- only the product of this change may differ besides those that stay busy
  have others : ∀ {product shown}, point.change? = some (product, shown) →
      ∀ p, p ≠ product → ¬Busy rest p → lineOf? p c.lines = lineOf? p c.confirmed := by
    intro product shown hch p hne hb
    refine hm p fun ⟨a, ha, shown', he⟩ => ?_
    rcases List.mem_cons.mp ha with rfl | ha
    · cases hch.symm.trans he
      exact hne rfl
    · exact hb ⟨a, ha, shown', he⟩
  have unchanged : point.change? = none → Mirrors c rest := by
    intro hch p hb
    refine hm p fun ⟨a, ha, shown', he⟩ => ?_
    rcases List.mem_cons.mp ha with rfl | ha
    · cases hch.symm.trans he
    · exact hb ⟨a, ha, shown', he⟩
  induction h with
  | loaded hcont => exact hcont.mirrors (mirrors_of_eq rfl _)
  | notLoaded _ hcont => exact hcont.mirrors (unchanged rfl)
  | @fold point product shown p id ids hch =>
    intro q hb
    have hne : q ≠ product := by
      rintro rfl
      exact hb ⟨_, List.mem_append_right _ List.mem_cons_self, shown, rfl⟩
    exact others hch q hne fun ⟨a, ha, hb'⟩ => hb ⟨a, List.mem_append_left _ ha, hb'⟩
  | settle hch hset => exact hset.mirrors (hp _ _ hch) (others hch)
  | settleFolded hch hset => exact hset.mirrors (hp _ _ hch) (others hch)
  | revert _ hcont => exact hcont.mirrors (mirrors_of_eq rfl _)
  | stop _ => exact absurd rfl (hr _)
  | after _ _ ih => exact ih hr hp hm others unchanged

end Shopfront.Cart
