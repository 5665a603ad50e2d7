import Marketplace.Machine
import Marketplace.Products.Outcomes

/-! The stock of a product with variants is the sum of theirs, after any run of commands that fail at any point. -/
namespace Marketplace.Products

section
variable {env : Env} {issuer : Issuer} {dropped : Url → Prop} {s after : Shelf} {product : Product}

theorem Undone.tables (undone : Undone env issuer dropped s after) :
    after.products = s.products ∧ after.outbox = s.outbox ∧ s.issued ≤ after.issued := by
  obtain ⟨t, owner, k, grown, rfl⟩ := undone
  have cleaned := (deleteAssets_cleaned env.fails owner k t.uploadedAssets t.shelf).1
  exact ⟨cleaned.products.trans grown.products, cleaned.outbox.trans grown.outbox, cleaned.issued.symm ▸ grown.issued⟩

/-- The tables after a command that has saved `product`. -/
structure Saved (s : Shelf) (product : Product) (payload : Payload) (env : Env) (after : Shelf) : Prop where
  products : after.products = Function.update s.products product.id (some product)
  outbox : ∃ n, s.issued ≤ n ∧ n < after.issued ∧ after.outbox = s.outbox ++ [⟨env.issuer.event n, payload, env.now⟩]
  issued : s.issued ≤ after.issued

theorem Done.tables {R : Product → Effort → Prop} {payload : Payload} (done : Done env issuer dropped R payload s after product) :
    Saved s product payload env after ∧ ∃ t₁, R product t₁ ∧ t₁.shelf.issued ≤ after.issued := by
  obtain ⟨t₁, t, k, gone, grown, made, later, _, rfl⟩ := done
  have cleaned := (deleteFiles_cleaned env.fails k gone (committed env t (t.uploadedAssets.map (·.1)) product payload)).1
  have whole := grown.trans later
  have issued : (committed env t (t.uploadedAssets.map (·.1)) product payload).issued = t.shelf.issued + 1 := rfl
  have grew : s.issued ≤ t.shelf.issued := whole.issued
  have kept := cleaned.issued
  refine ⟨⟨?_, ⟨t.shelf.issued, grew, by omega, ?_⟩, by omega⟩, t₁, made, ?_⟩
  · rw [cleaned.products]
    exact congrArg (fun p => Function.update p product.id (some product)) whole.products
  · rw [cleaned.outbox]
    exact congrArg (· ++ [OutboxEvent.mk (env.issuer.event t.shelf.issued) payload env.now]) whole.outbox
  · have := later.issued
    omega

end

/-- Updates that name a variant once, and stock that moves in variants of the product. -/
def Orderly (issuer : Issuer) (s : Shelf) (turn : Env × Command) : Prop :=
  turn.1.issuer = issuer ∧
    match turn.2 with
    | .update _ dto _ _ => OncePerVariant dto
    | .moveStock move => ∀ product, s.products move.product = some product → product.hasVariants = true →
      ∀ line ∈ move.lines, ∃ row ∈ product.variants, line.1 = some row.id
    | _ => True

/-- Every product is sound, under its own id. -/
def AllSound (issuer : Issuer) (s : Shelf) : Prop :=
  ∀ id product, s.products id = some product → product.id = id ∧ Sound issuer s.issued product

section
variable {env : Env} {issuer : Issuer} {s after : Shelf}

theorem AllSound.same (sound : AllSound issuer s) (products : after.products = s.products) (issued : s.issued ≤ after.issued) :
    AllSound issuer after := by
  intro id product stands
  rw [products] at stands
  obtain ⟨own, good⟩ := sound id product stands
  exact ⟨own, good.later issued⟩

theorem AllSound.save {saved : Product} (sound : AllSound issuer s) (good : Sound issuer after.issued saved)
    (products : after.products = Function.update s.products saved.id (some saved)) (issued : s.issued ≤ after.issued) :
    AllSound issuer after := by
  intro id product stands
  rw [products] at stands
  by_cases own : id = saved.id
  · subst own
    rw [Function.update_self] at stands
    cases stands
    exact ⟨rfl, good⟩
  · rw [Function.update_of_ne own] at stands
    obtain ⟨named, good⟩ := sound id product stands
    exact ⟨named, good.later issued⟩

theorem sum_of_line {rows : List ProductVariant} {line : Option Uuid × Int} (unique : (rows.map (·.id)).Nodup)
    (names : ∃ row ∈ rows, line.1 = some row.id) :
    (rows.map fun row => if line.1 = some row.id then line.2 else 0).sum = line.2 := by
  induction rows with
  | nil =>
    obtain ⟨row, none, _⟩ := names
    exact absurd none List.not_mem_nil
  | cons first rest ih =>
    rw [List.map_cons, List.nodup_cons] at unique
    rw [List.map_cons, List.sum_cons]
    obtain ⟨row, member, named⟩ := names
    by_cases here : line.1 = some first.id
    · have absent : ∀ row ∈ rest, ¬ line.1 = some row.id := by
        intro row later same
        rw [here] at same
        exact unique.1 (Option.some.inj same ▸ List.mem_map_of_mem later)
      have zero : (rest.map fun row => if line.1 = some row.id then line.2 else 0).sum = 0 := by
        refine List.sum_eq_zero fun amount listed => ?_
        obtain ⟨row, later, rfl⟩ := List.mem_map.mp listed
        exact if_neg (absent row later)
      rw [if_pos here, zero, add_zero]
    · have later : row ∈ rest := by
        rcases List.mem_cons.mp member with rfl | later
        · exact absurd named here
        · exact later
      rw [if_neg here, zero_add, ih unique.2 ⟨row, later, named⟩]

/-- What the variants get is what the product gets. -/
theorem sum_of_lines {rows : List ProductVariant} (unique : (rows.map (·.id)).Nodup) (lines : List (Option Uuid × Int))
    (names : ∀ line ∈ lines, ∃ row ∈ rows, line.1 = some row.id) (id : Uuid) :
    (rows.map fun row => StockMove.of ⟨id, lines⟩ row.id).sum = StockMove.total ⟨id, lines⟩ := by
  induction lines with
  | nil =>
    refine List.sum_eq_zero fun amount listed => ?_
    obtain ⟨row, _, rfl⟩ := List.mem_map.mp listed
    rfl
  | cons line rest ih =>
    have first := sum_of_line unique (names line List.mem_cons_self)
    have more := ih fun line member => names line (List.mem_cons_of_mem _ member)
    have split : ∀ row : ProductVariant, StockMove.of ⟨id, line :: rest⟩ row.id =
        (if line.1 = some row.id then line.2 else 0) + StockMove.of ⟨id, rest⟩ row.id := by
      intro row
      unfold StockMove.of
      by_cases here : line.1 = some row.id
      · simp [here]
      · simp [here]
    rw [List.map_congr_left fun row _ => split row, List.sum_map_add, first, more]
    rfl

theorem sumStock_write {move : StockMove} {now : Time} {product : Product} :
    sumStock (move.write now product).variants =
      sumStock product.variants + (product.variants.map fun row => move.of row.id).sum := by
  unfold sumStock StockMove.write
  rw [List.map_map, ← List.sum_map_add]
  rfl

theorem sound_write {n : Nat} {move : StockMove} {now : Time} {product : Product} (sound : Sound issuer n product)
    (names : product.hasVariants = true → ∀ line ∈ move.lines, ∃ row ∈ product.variants, line.1 = some row.id)
    (stocked : 0 ≤ (move.write now product).stockQuantity ∧ ∀ row ∈ (move.write now product).variants, 0 ≤ row.stockQuantity) :
    Sound issuer n (move.write now product) := by
  have ids : (move.write now product).variants.map (·.id) = product.variants.map (·.id) := by
    unfold StockMove.write
    rw [List.map_map]
    rfl
  refine ⟨⟨fun row member => ?_, ids ▸ sound.rows.unique, stocked.2⟩, fun several => ?_, fun bare => ?_, stocked.1⟩
  · obtain ⟨before, stands, rfl⟩ := List.mem_map.mp member
    exact sound.rows.named before stands
  · rw [sumStock_write, sum_of_lines sound.rows.unique move.lines (names several) move.product, ← sound.sums several]
    rfl
  · show product.variants.map _ = []
    rw [sound.bare bare]
    rfl

theorem sound_moveStock {move : StockMove} {now : Time} (sound : AllSound issuer s)
    (names : ∀ product, s.products move.product = some product → product.hasVariants = true →
      ∀ line ∈ move.lines, ∃ row ∈ product.variants, line.1 = some row.id) : AllSound issuer (moveStock move now s) := by
  unfold moveStock
  cases stands : s.products move.product with
  | none => exact sound
  | some product =>
    dsimp only
    split
    · rename_i stocked
      obtain ⟨_, good⟩ := sound move.product product stands
      exact sound.save (sound_write good (names product stands) stocked) rfl (Nat.le_refl _)
    · exact sound

theorem sound_moderate {admin id : Uuid} {status : ProductStatus} {refused : Product → Option Err} {action : ModerationAction}
    {reason : Option String} {message : String} (sound : AllSound issuer s) :
    AllSound issuer (moderate env admin id status refused action reason message s).2 := by
  rcases moderate_cases env admin id status refused action reason message s with
    same | ⟨found, product, contact, stands, _, rfl, same⟩
  · rw [same]
    exact sound
  · rw [same]
    obtain ⟨_, good⟩ := sound id found stands
    refine sound.save ?_ rfl ?_
    · exact ⟨good.rows.later (Nat.le_add_right _ 2), good.sums, good.bare, good.stocked⟩
    · exact Nat.le_add_right _ 2

theorem sound_remove {id : Uuid} {user : User} (sound : AllSound issuer s) : AllSound issuer (remove env id user s).2 := by
  rcases remove_cases env issuer id user s with
    same | ⟨found, stands, t, k, gone, grown, failed | ⟨_, done⟩⟩
  · rw [same]
    exact sound
  · rw [failed]
    exact sound.same grown.products grown.issued
  · have cleaned := (deleteFiles_cleaned env.fails k gone (removedFrom env found t)).1
    rw [← done] at cleaned
    have issued : s.issued ≤ t.shelf.issued := grown.issued
    have kept : (remove env id user s).2.issued = t.shelf.issued + 1 := cleaned.issued
    refine sound.save (?_ : Sound issuer _ (found.removed env)) ?_ (by omega)
    · exact ⟨rows_nil, fun several => absurd several Bool.false_ne_true, fun _ => rfl, Int.le_refl 0⟩
    · rw [cleaned.products]
      exact congrArg (fun p => Function.update p found.id (some (found.removed env))) grown.products

theorem allSound_act (distinct : issuer.Distinct) (turn : Env × Command) (sound : AllSound issuer s)
    (orderly : Orderly issuer s turn) : AllSound issuer (act s turn) := by
  obtain ⟨env, command⟩ := turn
  obtain ⟨same, names⟩ := orderly
  cases command with
  | create dto files user =>
    show AllSound issuer (create env dto files user s).2
    rcases create_cases distinct same dto files user s (fun _ => False) with none | undone | ⟨product, done⟩
    · rw [none]
      exact sound
    · obtain ⟨products, _, issued⟩ := undone.tables
      exact sound.same products issued
    · obtain ⟨saved, t₁, drafted, later⟩ := done.tables
      exact sound.save (drafted.sound.later later) saved.products saved.issued
  | update id dto files user =>
    have stage : ∀ found shop, s.products id = some found → Stage issuer s.issued (Dropped dto files found)
        (edit env dto files user.sub shop found) (Edited issuer s.issued env dto files found) (.start s) :=
      fun found shop stands => stage_edit distinct same dto files user.sub shop found (sound id found stands).2 names
          fun _ there => there
    show AllSound issuer (update env id dto files user s).2
    rcases update_cases id dto files user s _ _ stage with none | ⟨found, stands, _, _, undone | ⟨product, done⟩⟩
    · rw [none]
      exact sound
    · obtain ⟨products, _, issued⟩ := undone.tables
      exact sound.same products issued
    · obtain ⟨saved, t₁, edited, later⟩ := done.tables
      exact sound.save (edited.sound.later later) saved.products saved.issued
  | remove id user => exact sound_remove sound
  | takeDown admin id reason => exact sound_moderate sound
  | restore admin id => exact sound_moderate sound
  | moveStock move => exact sound_moveStock sound names

end

/-- After any commands, failed or not, the stock of a product with variants is the sum of theirs, one without variants has
no rows of them, and no stock is below zero. -/
theorem stock_adds_up {issuer : Issuer} (distinct : issuer.Distinct) {s : Shelf}
    (reached : Machine.Reached act (Orderly issuer) emptyShelf s) (id : Uuid) (product : Product)
    (stands : s.products id = some product) :
    (product.hasVariants = true → product.stockQuantity = sumStock product.variants) ∧
      (product.hasVariants = false → product.variants = []) ∧
      0 ≤ product.stockQuantity ∧ ∀ row ∈ product.variants, 0 ≤ row.stockQuantity := by
  have sound : AllSound issuer s := by
    refine reached.invariant (P := AllSound issuer) (fun id product none => by cases none) fun s turn sound orderly => ?_
    exact allSound_act distinct turn sound orderly
  obtain ⟨_, good⟩ := sound id product stands
  exact ⟨good.sums, good.bare, good.stocked, good.rows.stocked⟩

/-- The `n`th name of a kind. -/
def letters (kind : Char) (n : Nat) : String := String.ofList (List.replicate (n + 1) kind)

theorem letters_injective (kind : Char) : (letters kind).Injective := by
  intro n m same
  have lengths := congrArg (fun text : String => text.toList.length) same
  simpa [letters] using lengths

theorem letters_filled (kind : Char) (n : Nat) : letters kind n ≠ "" := by
  intro none
  have lengths := congrArg (fun text : String => text.toList.length) none
  simp [letters] at lengths

def alphabet : Issuer := ⟨letters 'p', letters 'v', letters 'a', letters 'c', letters 'u', letters 'e'⟩

theorem alphabet_distinct : alphabet.Distinct :=
  ⟨letters_injective _, letters_injective _, letters_injective _, letters_injective _, letters_injective _, letters_injective _,
    letters_filled _⟩

/-- A quiet hour in which nothing fails. -/
def calm (now : Time) : Env where
  shopOf _ := some ("shop", .active)
  leafCategory _ := .ok ()
  sellerContact _ := none
  slugify name := name
  parseVariantAttributes _ := []
  issuer := alphabet
  now := now
  touch := false
  fails _ := false

def seller : User := ⟨"seller", .active⟩

/-- A shirt in two colours. -/
def shirt : CreateProductDto where
  name := "shirt"
  description := none
  price := 10000
  sku := none
  weight := 200
  length := none
  width := none
  height := none
  categoryId := "shirts"
  stockQuantity := none
  hasVariants := true
  variants := some [⟨"red", none, none, 3, some 1, none⟩, ⟨"blue", none, none, 4, none, none⟩]
  colorImages := none

def shirtFiles : Files := ⟨["front"], ["back"], ["red front"], []⟩

def shirtSold : List (Env × Command) :=
  [(calm 1, .create shirt shirtFiles seller),
    (calm 2, .moveStock ⟨letters 'p' 5, [(some (letters 'v' 3), -1)]⟩)]

theorem one_shirt_sold : ∃ product, (Machine.run act emptyShelf shirtSold).products (letters 'p' 5) = some product ∧
    product.stockQuantity = sumStock product.variants ∧ product.stockQuantity = 6 := by
  have first : Machine.Reached act (Orderly alphabet) emptyShelf (act emptyShelf (calm 1, .create shirt shirtFiles seller)) :=
    .move _ .start ⟨rfl, trivial⟩
  have names : ∀ product,
      (act emptyShelf (calm 1, .create shirt shirtFiles seller)).products (letters 'p' 5) = some product →
      ∃ row ∈ product.variants, some (letters 'v' 3) = some row.id := by
    intro product stands
    cases stands
    exact ⟨_, List.mem_cons_self, rfl⟩
  have second : Machine.Reached act (Orderly alphabet) emptyShelf (Machine.run act emptyShelf shirtSold) := by
    refine .move (calm 2, .moveStock ⟨letters 'p' 5, [(some (letters 'v' 3), -1)]⟩) first ⟨rfl, ?_⟩
    intro product stands _ line listed
    rw [List.mem_singleton.mp listed]
    exact names product stands
  refine ⟨_, rfl, ?_, rfl⟩
  exact (stock_adds_up alphabet_distinct second (letters 'p' 5) _ rfl).1 rfl

end Marketplace.Products
