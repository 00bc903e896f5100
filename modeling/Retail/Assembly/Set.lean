import Retail.Assembly.Offers
import Retail.Assembly.Sales
import Retail.Assembly.Shop
import Retail.Manifest.Reading

/-!
# Sets of documents

A set has one document of each kind. A scenario is loaded from channels, catalogue, promotions,
vouchers and orders, in this order.

## Main definitions

* `Manifest`: a manifest of any kind
* `Manifest.ofDocument?`: the manifest in a document
* `Assembly.add`, `Assembly.load`: one more manifest or document
* `Assembly.ofSet`: a whole set
-/

namespace Retail

/-- What a document of each kind holds. -/
inductive Manifest where
  | channels (entries : Named ChannelEntry)
  | catalogue (manifest : CatalogueManifest)
  | promotions (entries : Named PromotionEntry)
  | vouchers (entries : Named VoucherEntry)
  | orders (manifest : SalesManifest)

/-- Reads a document as a manifest of the kind. -/
def Manifest.ofDocument? (kind : ManifestKind) (document : Document) : Option Manifest :=
  match kind with
  | .channels => (channelEntries? document).map .channels
  | .catalogue => (CatalogueManifest.ofDocument? document).map .catalogue
  | .promotions => (promotionEntries? document).map .promotions
  | .vouchers => (voucherEntries? document).map .vouchers
  | .orders => (SalesManifest.ofDocument? document).map .orders

/-- The order in which the documents of a set are loaded. -/
def ManifestKind.all : List ManifestKind := [.channels, .catalogue, .promotions, .vouchers, .orders]

namespace Assembly

/-- Enters what a manifest holds. -/
def add (a : Assembly) : Manifest → Except LoadError Assembly
  | .channels entries => a.addChannels entries
  | .catalogue manifest => a.addCatalogue manifest
  | .promotions entries => a.addPromotions entries
  | .vouchers entries => a.addVouchers entries
  | .orders manifest => a.addSales manifest

/-- Enters what a document holds, if it is there and well-formed. -/
def load (a : Assembly) (kind : ManifestKind) (document : Except LoadError Document) :
    Except LoadError Assembly := do
  match Manifest.ofDocument? kind (← document) with
  | some manifest => a.add manifest
  | none => throw (.malformed kind)

/-- Loads a set of documents. -/
def ofSet (documents : ManifestKind → Except LoadError Document) : Except LoadError Assembly :=
  ManifestKind.all.foldlM (fun a kind => a.load kind (documents kind)) .empty

end Assembly

end Retail
