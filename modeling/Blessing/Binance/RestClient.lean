import Blessing.Binance.Models

/-! # The REST client

`BinanceRestClient.request` of `venues/binance/rest_client.py` as its callers see it: a request
gives a payload or raises. The client of a run answers the `n`-th request it is asked; nothing ties
one answer to another. -/

namespace Blessing.Binance.RestClient

open Blessing.Lib Blessing.Lib.Values
open Blessing.Binance.Models

/-- A signed `GET` request. -/
structure Request where
  path : String
  params : List (String × Json) := []
  deriving DecidableEq

/-- The client of a run: its configuration, the readings of `utc_now()` in microseconds since the
epoch, and the answers. -/
structure Client where
  env : BinanceEnvironment
  portfolioMargin : Bool
  now : ℤ
  answer : ℕ → Request → Except Exn Json

section Paths

variable (client : Client)

/-- `_order_path` -/
def orderPath : String := if client.portfolioMargin then "/papi/v1/um/order" else "/fapi/v1/order"

/-- `_user_trades_path` -/
def userTradesPath : String :=
  if client.portfolioMargin then "/papi/v1/um/userTrades" else "/fapi/v1/userTrades"

/-- `_income_path` -/
def incomePath : String := if client.portfolioMargin then "/papi/v1/um/income"
  else "/fapi/v1/income"

end Paths

/-! ### Methods -/

inductive Method where
  | get
  | post
  | put
  | delete
  deriving DecidableEq

def Method.value : Method → String
  | .get => "GET"
  | .post => "POST"
  | .put => "PUT"
  | .delete => "DELETE"

end Blessing.Binance.RestClient
