import Shopfront.Shop.Request

/-! What a caller does to a shop at once. Most actions only read; each of the others replaces one part,
and a logout empties all stores. Main statement: `perform_performs` lists the cases, so that facts on
actions need no look at each of them. -/

namespace Shopfront.Shop

/-- What an action makes of a shop. -/
inductive Performs (s : Shop) : Action → Shop → Prop
  | read (action) : Performs s action s
  | applyFavourites (p) :
      Performs s (.applyFavourites p) { s with favourites := s.favourites.applyIds p }
  | applyDetails (p ids wanted) :
      Performs s (.applyDetails p ids) { s with favourites := s.favourites.applyDetails wanted p }
  | resetFavourites : Performs s .resetFavourites { s with favourites := s.favourites.reset }
  | applyCart (p) : Performs s (.applyCart p) { s with cart := s.cart.applySnapshot s.catalog p }
  | resetCart : Performs s .resetCart { s with cart := s.cart.reset }
  | resetOrders : Performs s .resetOrders { s with orders := s.orders.reset }
  | logout : Performs s .logout s.logout
  | useCatalog (p) : Performs s (.useCatalog p) (s.useCatalog (Catalog.ofPayload p))
  | login (token session) : Performs s (.login token) { s with session }
  | clearSession : Performs s .clearSession { s with session := s.session.clear }

theorem shop_withTotals (s : Shop) (answer : Cart.Totals → Answer) :
    (s.withTotals answer).shop = s := by
  unfold withTotals
  split <;> rfl

theorem perform_performs (s : Shop) (action : Action) :
    Performs s action (s.perform action).shop := by
  cases action with
  | applyFavourites p => exact .applyFavourites p
  | applyDetails p ids =>
    simp only [perform, applyDetails]
    split
    · exact .applyDetails p _ _
    · exact .applyDetails p _ _
    · split
      · exact .applyDetails p _ _
      · exact .read _
  | resetFavourites => exact .resetFavourites
  | applyCart p => exact .applyCart p
  | resetCart => exact .resetCart
  | resetOrders => exact .resetOrders
  | logout => exact .logout
  | useCatalog p => exact .useCatalog p
  | login token =>
    simp only [perform]
    split
    · exact .login token _
    · exact .read _
  | clearSession => exact .clearSession
  | totalPrice | taxAmount | cart =>
    simp only [perform, shop_withTotals]
    exact .read _
  | drawer | summary =>
    simp only [perform]
    split <;> exact .read _
  | isFavourite _ | favourites | lineFor _ | shownLines | shownOrders | payableOrders | errors
  | headers | isAuthenticated => exact .read _

end Shopfront.Shop
