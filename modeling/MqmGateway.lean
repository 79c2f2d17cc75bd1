import MqmGateway.Config.AddressLists
import MqmGateway.Config.CommandOutcomes
import MqmGateway.Config.Limits
import MqmGateway.Config.Refreshes
import MqmGateway.Config.ReplyPayloads
import MqmGateway.Config.SlaveOptions
import MqmGateway.Config.Topics
import MqmGateway.ConverterNameParser.Renderings
import MqmGateway.Converters.DocumentedMaps
import MqmGateway.Converters.Exprtk
import MqmGateway.Converters.Map
import MqmGateway.Converters.NumericArguments
import MqmGateway.Converters.Reencoding
import MqmGateway.Converters.Strings
import MqmGateway.Executor.Budget
import MqmGateway.Executor.Reporting
import MqmGateway.Executor.Retries
import MqmGateway.Executor.Silence
import MqmGateway.Executor.Termination
import MqmGateway.Executor.WriteCounter
import MqmGateway.Gateway.MainLoop
import MqmGateway.Gateway.OncePolls
import MqmGateway.Gateway.Outcomes
import MqmGateway.Gateway.StandIn
import MqmGateway.ModbusRequestQueues.BestFit
import MqmGateway.ModbusRequestQueues.Turns
import MqmGateway.ModbusThread.Supervision
import MqmGateway.MqttClient.DefaultCommands
import MqmGateway.MqttClient.Generation
import MqmGateway.MqttClient.LiveChanges
import MqmGateway.MqttClient.Once
import MqmGateway.MqttClient.Retained
