import Marketplace.ReadCommitted.Invariant
import Marketplace.ReadCommitted.Serial
import Marketplace.ReadCommitted.Rowwise
import Marketplace.Orders.Cancel
import Marketplace.Accounts.RefreshReuse
import Marketplace.Accounts.StatusLock
import Marketplace.Accounts.ConcurrentRefresh
import Marketplace.Accounts.PasswordPurge
import Marketplace.Accounts.MailedTokens
import Marketplace.Accounts.ForgedCookies
import Marketplace.Accounts.Addresses
import Marketplace.CartRows
import Marketplace.Categories
import Marketplace.Reviews
import Marketplace.Coupons
import Marketplace.Orders.Idempotency
import Marketplace.Orders.CrashRecovery
import Marketplace.Orders.CompletedPayment
import Marketplace.Orders.MasterStatus
import Marketplace.Orders.MasterTotal
import Marketplace.Orders.Preview
import Marketplace.Orders.CartCleared
import Marketplace.Orders.CouponUse
import Marketplace.PaymentAttempts
import Marketplace.Search.Retention
import Marketplace.Orders.RestockOnce
import Marketplace.Returns.QuantityBound
import Marketplace.Payouts.Balance
import Marketplace.Notifications.Mails
import Marketplace.Outbox.Kept
import Marketplace.Chat.Breaker
import Marketplace.Chat.Quotas
import Marketplace.Chat.Stream
import Marketplace.Chat.Access
import Marketplace.Chat.LastMessage
import Marketplace.Chat.Unread
import Marketplace.Chat.Delivery
import Marketplace.Chat.History
import Marketplace.StockLines
import Marketplace.Orders.RebuiltResponse
import Marketplace.Search.Reindex
import Marketplace.Shops.Coordinates
import Marketplace.Shops.Setup
import Marketplace.Chat.DirectStore
import Marketplace.Chat.Burst
import Marketplace.Orders.OrderNumbers
import Marketplace.Orders.ExpirySweep
import Marketplace.Search.RetryCopies
import Marketplace.Search.Circuit
import Marketplace.Chat.Ask
import Marketplace.Chat.ReplyCache
import Marketplace.VnpaySignature
import Marketplace.ProductListings
import Marketplace.Chat.Rooms
import Marketplace.Chat.MessagePages
import Marketplace.HttpClient
import Marketplace.Chat.DirectSocket
import Marketplace.Storefront.GuestCart
import Marketplace.Storefront.ActiveCart
import Marketplace.Products.Images
import Marketplace.Products.Mirror
import Marketplace.Chat.Connections
import Marketplace.Chat.Answer
