import Sahel.Library.KeyedTable
import Sahel.Library.Interference
import Sahel.Library.HalfOpen
import Sahel.Domain.Text
import Sahel.Domain.Calendar
import Sahel.Domain.Booking
import Sahel.Domain.Pricing
import Sahel.Model.Refinement
import Sahel.Safety.Nights
import Sahel.Safety.Payments
import Sahel.Safety.LifeCycle
import Sahel.Safety.Availability
import Sahel.Safety.Dashboard
import Sahel.Safety.Picker
import Sahel.Safety.Timeline
import Sahel.Safety.Week
import Sahel.Safety.RefClash
import Sahel.Safety.Terms
import Sahel.Safety.Prices
import Sahel.Safety.Edits
import Sahel.Safety.Login
import Sahel.Safety.LoginSecrecy
import Sahel.Safety.Tokens
import Sahel.Web.Csv
import Sahel.Library.TwoRuns
import Sahel.Safety.Strangers
import Sahel.Safety.PublicCatalogue
import Sahel.Safety.Offsets
import Sahel.Safety.Filters
import Sahel.Library.Faultless
import Sahel.Http.AdminImages
import Sahel.Model.World
import Sahel.Safety.Covers
import Sahel.Safety.Accounts
import Sahel.Web.BookingForm
import Sahel.Safety.BookingForm
import Sahel.Safety.Notice
import Sahel.Safety.Amenities
import Sahel.Safety.Photos
import Sahel.Web.Money
import Sahel.Safety.PriceField
import Sahel.Domain.Slug
import Sahel.Library.AtomicCalls
import Sahel.Store.CatalogueInserts
import Sahel.Http.AdminCreate
import Sahel.Http.AdminRows
import Sahel.Safety.Slugs
import Sahel.Store.CatalogueKeys
import Sahel.Safety.Repeats
import Sahel.Library.UrlPath
import Sahel.Safety.Redirect
import Sahel.Library.Binary64
import Sahel.Web.Session
import Sahel.Safety.Session
import Sahel.Library.Utf8
import Sahel.Web.Phone
import Sahel.Safety.Phones
import Sahel.Safety.Amounts
import Sahel.Domain.Days
import Sahel.Safety.Ranges
import Sahel.Library.FormUrlencoded
import Sahel.Library.ShortestDecimal
import Sahel.Web.Numbers
import Sahel.Web.SearchParams
import Sahel.Safety.SearchLinks
import Sahel.Store.Objects
import Sahel.Http.ImageFiles
import Sahel.Safety.ImageFiles
import Sahel.Safety.LoginBurst
import Sahel.Web.StayPlanner
import Sahel.Safety.StayPlanner
import Sahel.Library.FifteenDigits
import Sahel.Web.Pounds
import Sahel.Safety.Pounds
import Sahel.Web.Numerals
import Sahel.Web.UnitForm
import Sahel.Safety.FormTexts
import Sahel.Safety.UnitForm
import Sahel.Web.Result
import Sahel.Safety.Result
import Sahel.Web.TimelineGrid
import Sahel.Safety.TimelineGrid
