import Pets.Library.Transition
import Pets.Library.SerialQueue
import Pets.Library.Session
import Pets.Library.Client
import Pets.Library.RunLoop
import Pets.Library.Decimal
import Pets.Library.Binary64
import Pets.Library.Extended
import Pets.Library.Lists
import Pets.Library.Characters
import Pets.Library.LiveView
import Pets.Library.Ownership
import Pets.Library.FormUrlencoded
import Pets.Library.JSONDecoder
import Pets.Library.Printed
import Pets.Library.Root
import Pets.Library.Calendar
import Pets.Library.DateFormat
import Pets.FlashChat.Snapshot
import Pets.FlashChat.LoadMessages
import Pets.FlashChat.Table
import Pets.FlashChat.Decoding
import Pets.FlashChat.SendMessage
import Pets.FlashChat.SendRuns
import Pets.FlashChat.Dates
import Pets.Calculator.CalculatorManager
import Pets.Calculator.ViewController
import Pets.Calculator.Safety
import Pets.Calculator.Chain
import Pets.Calculator.Entry
import Pets.Calculator.Reset
import Pets.Calculator.Pending
import Pets.Quizzler.QuizBrain
import Pets.Quizzler.ViewController
import Pets.Quizzler.Judged
import Pets.Quizzler.Score
import Pets.Quizzler.Round
import Pets.Todoey.Realm
import Pets.Todoey.ItemViewController
import Pets.Todoey.Search
import Pets.Todoey.CategoryViewController
import Pets.Todoey.Integrity
import Pets.Todoey.DeleteRow
import Pets.Todoey.Checkmark
import Pets.EggTimer.ViewController
import Pets.EggTimer.Safety
import Pets.EggTimer.Alarm
import Pets.Clima.WeatherManager
import Pets.Clima.WeatherData
import Pets.Clima.UsedFields
import Pets.Clima.WeatherViewController
import Pets.Clima.LatestWins
import Pets.Clima.Query
import Pets.Clima.Times
import Pets.ByteCoin.CoinManager
import Pets.ByteCoin.CoinViewController
import Pets.ByteCoin.RateLabel
import Pets.DiceeAR.ViewController
import Pets.DiceeAR.Bookkeeping
import Pets.MeasureAR.ViewController
import Pets.MeasureAR.Measurement
import Pets.MeasureAR.Bookkeeping
import Pets.MeasureAR.Text
import Pets.TwitterEmotion.ViewController
import Pets.TwitterEmotion.Standalone
import Pets.TwitterEmotion.Batches
import Pets.Tipsy.CalculateViewController
import Pets.Tipsy.Bill
import Pets.BMICalculator.CalculatorBrain
import Pets.BMICalculator.CalculateViewController
import Pets.BMICalculator.Agreement
import Pets.BMICalculator.Labels
import Pets.BMICalculator.Determined
import Pets.BMICalculator.Bands
import Pets.Destiny.StoryBrain
import Pets.Destiny.ViewController
import Pets.Destiny.Plays
import Pets.Library.CodingPath
import Pets.Clima.Failures
import Pets.Clima.OneResponse
import Pets.WhatFlower.ViewController
import Pets.WhatFlower.OneAnswer
import Pets.WhatFlower.LastPhoto
import Pets.Library.Delayed
import Pets.FlashChat.Service
import Pets.FlashChat.Provenance
import Pets.FlashChat.Delivery
import Pets.FlashChat.Agreement
import Pets.FlashChat.Survival
import Pets.FlashChat.CatchUp
import Pets.FlashChat.Staying
import Pets.FlashChat.Welcome
import Pets.EggTimer.Refinement
import Pets.Quizzler.Drawn
import Pets.MeasureAR.Pairs
import Pets.Todoey.Outline
import Pets.Todoey.Rows
import Pets.Todoey.Titles
import Pets.Todoey.Taps
import Pets.H4X0RNews.PostData
import Pets.H4X0RNews.NetworkManager
import Pets.H4X0RNews.Posts
import Pets.Xylophone.ViewController
