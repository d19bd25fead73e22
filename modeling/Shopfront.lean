import Shopfront.Main
import Shopfront.Proofs.Cart.Addressing
import Shopfront.Proofs.Cart.Agreement
import Shopfront.Proofs.Cart.ExactTotals
import Shopfront.Proofs.Cart.Increments
import Shopfront.Proofs.Cart.Naming
import Shopfront.Proofs.Cart.Placing
import Shopfront.Proofs.Cart.Removal
import Shopfront.Proofs.Cart.Rounds
import Shopfront.Proofs.Cart.Serial
import Shopfront.Proofs.Cart.Snapshot
import Shopfront.Proofs.Cart.Soundness
import Shopfront.Proofs.Cart.Undo
import Shopfront.Proofs.Decimal.Text
import Shopfront.Proofs.Favourites.Alternation
import Shopfront.Proofs.Favourites.Staleness
import Shopfront.Proofs.Joins
import Shopfront.Proofs.Orders.Fetching
import Shopfront.Proofs.Orders.Waiting
import Shopfront.Proofs.Payload.Entries
import Shopfront.Proofs.Payload.Shape
import Shopfront.Proofs.Session
import Shopfront.Proofs.Shop.Favourites
import Shopfront.Proofs.Shop.Identifiers
import Shopfront.Proofs.Shop.Independence
import Shopfront.Proofs.Shop.Logout
import Shopfront.Proofs.Shop.Pricing
import Shopfront.Proofs.Shop.Reads
import Shopfront.Proofs.Shop.Round
import Shopfront.Proofs.Shop.Statuses
import Shopfront.Proofs.Shop.Waiting
