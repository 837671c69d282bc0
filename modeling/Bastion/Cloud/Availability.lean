import Bastion.Cloud.Resource

set_option autoImplicit false

namespace Bastion.Cloud

open Json.Shape (model required withDefault string list)

structure Offer where
  type : String
  status : String
  deriving DecidableEq, Repr

def Offer.check : Json → Checked Offer :=
  model fun members =>
    Offer.mk <$> required members "value" string <*> required members "status" string

def Offer.toJson (offer : Offer) : Json :=
  .object [("value", .string offer.type), ("status", .string offer.status)]

structure Catalogue where
  kind : String
  offers : List Offer
  deriving DecidableEq, Repr

def Catalogue.defaultKind : String := "InstanceType"

def Catalogue.check : Json → Checked Catalogue :=
  model fun members =>
    Catalogue.mk <$> withDefault members "type" Catalogue.defaultKind string
      <*> withDefault members "supported_resources" [] (list Offer.check)

def Catalogue.toJson (catalogue : Catalogue) : Json :=
  .object [("type", .string catalogue.kind),
    ("supported_resources", .array (catalogue.offers.map Offer.toJson))]

structure ZoneOffers where
  zone : String
  catalogues : List Catalogue
  deriving DecidableEq, Repr

def ZoneOffers.check : Json → Checked ZoneOffers :=
  model fun members =>
    ZoneOffers.mk <$> required members "zone_id" string
      <*> withDefault members "available_resources" [] (list Catalogue.check)

def ZoneOffers.toJson (zone : ZoneOffers) : Json :=
  .object [("zone_id", .string zone.zone),
    ("available_resources", .array (zone.catalogues.map Catalogue.toJson))]

structure Availability where
  zones : List ZoneOffers
  deriving DecidableEq, Repr

namespace Availability

def available : String := "Available"

/-- The type of the first offer of the first kind in the first zone, while it is available. -/
def availableType (availability : Availability) : Option String := do
  let zone ← availability.zones.head?
  let catalogue ← zone.catalogues.head?
  let offer ← catalogue.offers.head?
  if offer.status = available then some offer.type else none

def check : Json → Checked Availability :=
  model fun members =>
    Availability.mk <$> withDefault members "available_zones" [] (list ZoneOffers.check)

def toJson (availability : Availability) : Json :=
  .object [("available_zones", .array (availability.zones.map ZoneOffers.toJson))]

end Availability

end Bastion.Cloud
